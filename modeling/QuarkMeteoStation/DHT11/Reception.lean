import QuarkMeteoStation.DHT11.Timed
import QuarkMeteoStation.Library.Waveform

namespace QuarkMeteoStation

open Library Library.Waveform

/-! What the sensor sends, bit by bit, and how the driver keeps in step with it:
behind every zero by a little more than the one before, until a one lets it wait
for the next bit. -/

namespace DHT11

open Onewire (Clock levelOf)

structure Window where
  least : Nat
  most : Nat
  le : least ≤ most

def Window.Contains (window : Window) (length : Nat) : Prop :=
  window.least ≤ length ∧ length ≤ window.most

instance (window : Window) (length : Nat) :
    Decidable (window.Contains length) :=
  inferInstanceAs (Decidable (_ ∧ _))

/-- The lengths the sensor keeps to. -/
structure Timing where
  /-- The shortest pulse that it answers to. -/
  wakeAfter : Nat
  response : Window
  presenceLow : Window
  presenceHigh : Window
  /-- Every bit begins with a low, and its high tells what it is. -/
  bitLow : Window
  zero : Window
  one : Window

structure Cell where
  bit : Bool
  low : Nat
  high : Nat
  deriving DecidableEq, Repr

def Cell.wave (cell : Cell) : List (QmGpioState × Nat) :=
  [(.low, cell.low), (.high, cell.high)]

structure Cell.Within (timing : Timing) (cell : Cell) : Prop where
  low : timing.bitLow.Contains cell.low
  high : (if cell.bit then timing.one else timing.zero).Contains cell.high

structure Answer where
  response : Nat
  presenceLow : Nat
  presenceHigh : Nat
  cells : List Cell
  /-- The low that ends the last bit. -/
  last : Nat

def cellsWave (cells : List Cell) (last : Nat) : List (QmGpioState × Nat) :=
  cells.flatMap Cell.wave ++ [(.low, last)]

namespace Answer

def wave (answer : Answer) : List (QmGpioState × Nat) :=
  [(.high, answer.response), (.low, answer.presenceLow),
    (.high, answer.presenceHigh)] ++ cellsWave answer.cells answer.last

def sensor (timing : Timing) (answer : Answer) (pulse since : Nat) :
    QmGpioState :=
  if timing.wakeAfter ≤ pulse then levelAt .high answer.wave since else .high

def bits (answer : Answer) : List Bool :=
  answer.cells.map Cell.bit

structure Within (timing : Timing) (answer : Answer) : Prop where
  response : timing.response.Contains answer.response
  presenceLow : timing.presenceLow.Contains answer.presenceLow
  presenceHigh : timing.presenceHigh.Contains answer.presenceHigh
  cells : ∀ cell ∈ answer.cells, cell.Within timing
  last : timing.bitLow.least ≤ answer.last

end Answer

/-- No more zeros in a row than these, and no more than the first number before
the first one. -/
def ZerosWithin (zeros : Nat) : Nat → List Bool → Prop
  | _, [] => True
  | 0, false :: _ => False
  | budget + 1, false :: bits => ZerosWithin zeros budget bits
  | _, true :: bits => ZerosWithin zeros zeros bits

/-- From one look at a bit to the next. -/
def stepLeast (clock : Clock) : Nat :=
  clock.ticksPerUs * 74 + clock.access

def stepMost (clock : Clock) : Nat :=
  stepLeast clock + 2 * clock.slack

/-- When the driver looks at the first bit. -/
def firstLeast (clock : Clock) : Nat :=
  clock.ticksPerUs * 185 + clock.access + stepLeast clock

def firstMost (clock : Clock) : Nat :=
  firstLeast clock + 5 * clock.slack

/-- What the driver's delays ask of a sensor that sends no more than so many
zeros in a row. -/
structure Compatible (clock : Clock) (timing : Timing) (zeros : Nat) :
    Prop where
  wake : timing.wakeAfter ≤ clock.ticksPerUs * 20000 + clock.access
  answered : timing.response.most ≤ clock.ticksPerUs * 40 + clock.access
  present : clock.ticksPerUs * 40 + clock.access + 2 * clock.slack <
    timing.response.least + timing.presenceLow.least
  /-- The driver takes longer than the longest zero. -/
  behind : timing.bitLow.most + timing.zero.most ≤ stepLeast clock
  firstBehind : timing.response.most + timing.presenceLow.most +
    timing.presenceHigh.most + (timing.bitLow.most + timing.zero.most) ≤
      firstLeast clock
  /-- After so many zeros it still looks before a one is over. -/
  ahead : clock.access + clock.slack + stepMost clock +
      zeros * stepMost clock ≤
    zeros * (timing.bitLow.least + timing.zero.least) +
      (timing.bitLow.least + timing.one.least)
  firstAhead : firstMost clock + zeros * stepMost clock <
    timing.response.least + timing.presenceLow.least +
      timing.presenceHigh.least +
        (zeros * (timing.bitLow.least + timing.zero.least) +
          (timing.bitLow.least + timing.one.least))
  /-- No low is over before the driver has seen it. -/
  seen : clock.access + clock.slack ≤ timing.bitLow.least
  /-- Waiting for the end of a one does not time out. -/
  patient : timing.one.most ≤ synchroLoopTimeout.toNat * clock.access
  apart : timing.one.least ≤ timing.zero.least + timing.bitLow.least

section Wave

variable {timing : Timing} {cells : List Cell} {last : Nat}

theorem cellsWave_cons (cell : Cell) :
    cellsWave (cell :: cells) last =
      (.low, cell.low) :: (.high, cell.high) :: cellsWave cells last := rfl

/-- Every bit begins with a low, and so does what follows the last one. -/
theorem levelAt_cellsWave (within : ∀ cell ∈ cells, cell.Within timing)
    (ends : timing.bitLow.least ≤ last) {time : Nat}
    (early : time < timing.bitLow.least) :
    levelAt .high (cellsWave cells last) time = .low := by
  cases cells with
  | nil => exact levelAt_of_lt (Nat.lt_of_lt_of_le early ends)
  | cons cell cells =>
      have low := (within cell List.mem_cons_self).low.1
      exact levelAt_of_lt (Nat.lt_of_lt_of_le early low)

theorem levelAt_high {cell : Cell} {time : Nat} (risen : cell.low ≤ time)
    (before : time < cell.low + cell.high) :
    levelAt .high (cellsWave (cell :: cells) last) time = .high := by
  rw [cellsWave_cons, levelAt_of_le risen, levelAt_of_lt]
  omega

theorem levelAt_after (cell : Cell) (time : Nat) :
    levelAt .high (cellsWave (cell :: cells) last)
        (cell.low + cell.high + time) =
      levelAt .high (cellsWave cells last) time := by
  have whole := @levelAt_append _ QmGpioState.high cell.wave
    (cellsWave cells last) time
  simpa [Cell.wave, cellsWave_cons] using whole

end Wave

section Reception

variable {clock : Clock} {timing : Timing} {zeros : Nat} {pace : Nat → Nat}
variable (prompt : ∀ step, pace step ≤ clock.slack)

include prompt

theorem synchroLoop_fallen {fall low : Nat} (timeout : Nat) (watch : Watch)
    (high : ∀ time, watch.now ≤ time → time < fall → watch.line time = .high)
    (fallen : ∀ time, fall ≤ time → time < fall + low →
      watch.line time = .low)
    (seen : clock.access + clock.slack ≤ low) (before : watch.now < fall)
    (patient : fall ≤ watch.now + timeout * clock.access) :
    let after := watch.synchroLoop clock pace timeout .high
    after.line = watch.line ∧ fall ≤ after.now ∧
      after.now < fall + (clock.access + clock.slack) := by
  induction timeout generalizing watch with
  | zero => omega
  | succ timeout induction =>
      let looked := (watch.readPin clock pace).2
      have spent : looked.now = watch.now + clock.access + pace watch.steps :=
        rfl
      have late := prompt watch.steps
      have unfolded : watch.synchroLoop clock pace (timeout + 1) .high =
          looked.synchroLoop clock pace timeout (watch.line looked.now) := rfl
      intro after
      have afterEq : after = looked.synchroLoop clock pace timeout
          (watch.line looked.now) := unfolded
      by_cases still : looked.now < fall
      · rw [high looked.now (by omega) still] at afterEq
        rw [afterEq]
        refine induction looked ?_ fallen still ?_
        · intro time later
          exact high time (by omega)
        · rw [spent]
          rw [Nat.add_one_mul] at patient
          omega
      · rw [fallen looked.now (by omega) (by omega)] at afterEq
        have ended : looked.synchroLoop clock pace timeout .low = looked := by
          cases timeout <;> rfl
        rw [ended] at afterEq
        rw [afterEq]
        exact ⟨rfl, by omega, by omega⟩

/-- The driver is about to look at the first of these bits, in time for it and
for the zeros that may follow. -/
structure Timely (clock : Clock) (timing : Timing) (budget start : Nat)
    (cells : List Cell) (last : Nat) (watch : Watch) : Prop where
  line : ∀ time, watch.line (start + time) =
    levelAt .high (cellsWave cells last) time
  behind : start + (timing.bitLow.most + timing.zero.most) ≤
    watch.now + stepLeast clock
  ahead : watch.now + stepMost clock + budget * stepMost clock <
    start + (budget * (timing.bitLow.least + timing.zero.least) +
      (timing.bitLow.least + timing.one.least))

/-- The look at a bit. -/
def look (clock : Clock) (pace : Nat → Nat) (watch : Watch) :
    QmGpioState × Watch :=
  (watch.udelay clock pace 74).readPin clock pace

omit prompt in
theorem readBits_look (remaining : Nat) (frame : DataFrame) (watch : Watch) :
    watch.readBits clock pace (remaining + 1) frame =
      if (look clock pace watch).1 = .high then
        ((look clock pace watch).2.synchroLoop clock pace
          synchroLoopTimeout.toNat (look clock pace watch).1).readBits clock
            pace remaining (pushLevel frame (look clock pace watch).1)
      else
        (look clock pace watch).2.readBits clock pace remaining
          (pushLevel frame (look clock pace watch).1) := by
  rw [Watch.readBits]
  by_cases high : (look clock pace watch).1 = .high
  · rw [if_pos high]
    refine (if_pos high).trans ?_
    rw [pushLevel, if_pos high]
    rfl
  · rw [if_neg high]
    refine (if_neg high).trans ?_
    rw [pushLevel, if_neg high]
    rfl

omit prompt in
theorem look_line (watch : Watch) :
    (look clock pace watch).2.line = watch.line ∧
      (look clock pace watch).1 =
        watch.line (look clock pace watch).2.now := ⟨rfl, rfl⟩

theorem look_now (watch : Watch) :
    watch.now + stepLeast clock ≤ (look clock pace watch).2.now ∧
      (look clock pace watch).2.now ≤ watch.now + stepMost clock := by
  have waited := prompt watch.steps
  have looked := prompt (watch.steps + 1)
  have now : (look clock pace watch).2.now =
      watch.now + clock.ticksPerUs * 74 + pace watch.steps + clock.access +
        pace (watch.steps + 1) := rfl
  rw [now, stepMost, stepLeast]
  omega

variable (compatible : Compatible clock timing zeros)
variable {budget start last : Nat} {cell : Cell} {cells : List Cell}
variable {watch : Watch}

include compatible

/-- The look at a bit falls between the ends of a zero and of a one. -/
theorem look_between (timely : Timely clock timing budget start
      (cell :: cells) last watch) :
    start + (timing.bitLow.most + timing.zero.most) ≤
        (look clock pace watch).2.now ∧
      (look clock pace watch).2.now <
        start + (timing.bitLow.least + timing.one.least) := by
  obtain ⟨least, most⟩ := look_now prompt watch
  have behind := timely.behind
  have ahead := timely.ahead
  have low := timing.bitLow.le
  have zero := timing.zero.le
  have slower : timing.bitLow.least + timing.zero.least ≤ stepMost clock := by
    have steps := compatible.behind
    rw [stepMost]
    omega
  have drift := Nat.mul_le_mul_left budget slower
  omega

theorem timely_zero (within : ∀ later ∈ cell :: cells, later.Within timing)
    (ends : timing.bitLow.least ≤ last) (bit : cell.bit = false)
    (timely : Timely clock timing (budget + 1) start (cell :: cells) last
      watch) :
    (look clock pace watch).1 = .low ∧
      Timely clock timing budget (start + (cell.low + cell.high)) cells last
        (look clock pace watch).2 := by
  obtain ⟨after, before⟩ := look_between prompt compatible timely
  obtain ⟨-, most⟩ := look_now prompt watch
  obtain ⟨low, high⟩ := within cell List.mem_cons_self
  rw [bit] at high
  obtain ⟨lowLeast, lowMost⟩ := low
  obtain ⟨highLeast, highMost⟩ : timing.zero.Contains cell.high := high
  have apart := compatible.apart
  have steps := compatible.behind
  have next (time : Nat) : watch.line (start + (cell.low + cell.high) + time) =
      levelAt .high (cellsWave cells last) time := by
    rw [Nat.add_assoc, timely.line, levelAt_after]
  refine ⟨?_, next, ?_, ?_⟩
  · obtain ⟨time, now⟩ := Nat.exists_eq_add_of_le
      (show start + (cell.low + cell.high) ≤ (look clock pace watch).2.now by
        omega)
    rw [(look_line watch).2, now, next]
    exact levelAt_cellsWave
      (fun later member => within later (List.mem_cons_of_mem _ member)) ends
      (by omega)
  · omega
  · have ahead := timely.ahead
    rw [Nat.add_one_mul, Nat.add_one_mul] at ahead
    omega

theorem timely_one (within : ∀ later ∈ cell :: cells, later.Within timing)
    (ends : timing.bitLow.least ≤ last) (bit : cell.bit = true)
    (timely : Timely clock timing budget start (cell :: cells) last watch) :
    (look clock pace watch).1 = .high ∧
      Timely clock timing zeros (start + (cell.low + cell.high)) cells last
        ((look clock pace watch).2.synchroLoop clock pace
          synchroLoopTimeout.toNat .high) := by
  obtain ⟨after, before⟩ := look_between prompt compatible timely
  obtain ⟨low, high⟩ := within cell List.mem_cons_self
  rw [bit] at high
  obtain ⟨lowLeast, lowMost⟩ := low
  obtain ⟨highLeast, highMost⟩ : timing.one.Contains cell.high := high
  have patient := compatible.patient
  have line (time : Nat) (later : start ≤ time) :
      (look clock pace watch).2.line time =
        levelAt .high (cellsWave (cell :: cells) last) (time - start) := by
    rw [← timely.line, Nat.add_sub_cancel' later]
    rfl
  have next (time : Nat) : watch.line (start + (cell.low + cell.high) + time) =
      levelAt .high (cellsWave cells last) time := by
    rw [Nat.add_assoc, timely.line, levelAt_after]
  have risen (time : Nat) (from_ : (look clock pace watch).2.now ≤ time)
      (until_ : time < start + (cell.low + cell.high)) :
      (look clock pace watch).2.line time = .high := by
    rw [line time (by omega)]
    exact levelAt_high (by omega) (by omega)
  have fallen (time : Nat) (from_ : start + (cell.low + cell.high) ≤ time)
      (until_ : time <
        start + (cell.low + cell.high) + timing.bitLow.least) :
      (look clock pace watch).2.line time = .low := by
    obtain ⟨later, rfl⟩ := Nat.exists_eq_add_of_le from_
    refine (next later).trans ?_
    exact levelAt_cellsWave
      (fun later member => within later (List.mem_cons_of_mem _ member)) ends
      (by omega)
  obtain ⟨same, synchronised, prompted⟩ := synchroLoop_fallen prompt
    synchroLoopTimeout.toNat (look clock pace watch).2 risen fallen
    compatible.seen (by omega) (by omega)
  refine ⟨?_, ?_, ?_, ?_⟩
  · rw [(look_line watch).2]
    exact risen _ (Nat.le_refl _) (by omega)
  · intro time
    rw [same]
    exact next time
  · have steps := compatible.behind
    omega
  · have ahead := compatible.ahead
    omega

/-- The driver receives the bits that are sent. -/
theorem readBits_cells (within : ∀ cell ∈ cells, cell.Within timing)
    (ends : timing.bitLow.least ≤ last)
    (rows : ZerosWithin zeros budget (cells.map Cell.bit))
    (timely : Timely clock timing budget start cells last watch)
    (frame : DataFrame) :
    (watch.readBits clock pace cells.length frame).1 =
      (cells.map Cell.bit).foldl
        (fun frame bit => pushLevel frame (levelOf bit)) frame := by
  induction cells generalizing budget start watch frame with
  | nil => rfl
  | cons cell cells induction =>
      have rest : ∀ later ∈ cells, later.Within timing :=
        fun later member => within later (List.mem_cons_of_mem _ member)
      rw [List.map_cons] at rows ⊢
      rw [List.length_cons, readBits_look, List.foldl_cons]
      cases bit : cell.bit with
      | false =>
          rw [bit] at rows
          cases budget with
          | zero => exact rows.elim
          | succ budget =>
              obtain ⟨low, next⟩ :=
                timely_zero prompt compatible within ends bit timely
              rw [low, if_neg (by decide)]
              exact induction rest rows next _
      | true =>
          have rows : ZerosWithin zeros zeros (cells.map Cell.bit) := by
            rw [bit] at rows
            cases budget <;> exact rows
          obtain ⟨high, next⟩ :=
            timely_one prompt compatible within ends bit timely
          rw [high, if_pos rfl]
          exact induction rest rows next _

/-- The sensor answers, and the driver is in time for the first bit. -/
theorem reset_timely {answer : Answer} (within : answer.Within timing)
    (watch : Watch) :
    (watch.reset clock pace (answer.sensor timing)).1 = .present ∧
      Timely clock timing zeros
        (answer.response + answer.presenceLow + answer.presenceHigh)
        answer.cells answer.last
        (watch.reset clock pace (answer.sensor timing)).2 := by
  have first := prompt (watch.steps + 1 + 1 + 1)
  have second := prompt (watch.steps + 1 + 1 + 1 + 1)
  have third := prompt (watch.steps + 1 + 1 + 1 + 1 + 1)
  obtain ⟨responseLeast, responseMost⟩ := within.response
  obtain ⟨lowLeast, lowMost⟩ := within.presenceLow
  obtain ⟨highLeast, highMost⟩ := within.presenceHigh
  have line : (watch.reset clock pace (answer.sensor timing)).2.line =
      levelAt .high answer.wave := by
    funext time
    refine if_pos ?_
    have wake := compatible.wake
    simp only [Watch.udelay, Watch.spend]
    omega
  have now : (watch.reset clock pace (answer.sensor timing)).2.now =
      0 + clock.ticksPerUs * 40 + pace (watch.steps + 1 + 1 + 1) +
        clock.access + pace (watch.steps + 1 + 1 + 1 + 1) +
        clock.ticksPerUs * 145 + pace (watch.steps + 1 + 1 + 1 + 1 + 1) := rfl
  refine ⟨?_, ?_, ?_, ?_⟩
  · have looked : (watch.reset clock pace (answer.sensor timing)).2.line
        (0 + clock.ticksPerUs * 40 + pace (watch.steps + 1 + 1 + 1) +
          clock.access + pace (watch.steps + 1 + 1 + 1 + 1)) = .low := by
      have answered := compatible.answered
      have present := compatible.present
      rw [line, Answer.wave, List.cons_append, levelAt_of_le (by omega),
        List.cons_append, levelAt_of_lt (by omega)]
    exact if_pos looked
  · intro time
    have pieces := @levelAt_append _ QmGpioState.high
      [(.high, answer.response), (.low, answer.presenceLow),
        (.high, answer.presenceHigh)] (cellsWave answer.cells answer.last) time
    simp only [duration_cons, duration_nil, Nat.add_zero,
      ← Nat.add_assoc] at pieces
    rw [line]
    exact pieces
  · have behind := compatible.firstBehind
    rw [now]
    rw [firstLeast] at behind
    omega
  · have ahead := compatible.firstAhead
    rw [now]
    rw [firstMost, firstLeast] at ahead
    simp only [stepMost] at ahead ⊢
    omega

end Reception

section Frames

/-- The forty bits of five bytes, each with its most significant bit first. -/
def frameBits (bytes : Nat → UInt8) : List Bool :=
  (List.range frameLength).map fun slot =>
    (bytes (slot / 8)).toNat.testBit (7 - slot % 8)

def levelOfBits (bits : List Bool) (slot : Nat) : QmGpioState :=
  levelOf (bits.getD slot false)

theorem rawData_pushed (bits : List Bool) (frame : DataFrame) :
    (bits.foldl (fun frame bit => pushLevel frame (levelOf bit))
        frame).rawData.toNat =
      (frame.rawData.toNat * 2 ^ bits.length +
        spelled (levelOfBits bits) bits.length) % 2 ^ 64 := by
  induction bits using List.reverseRecOn with
  | nil =>
      have bound := frame.rawData.toNat_lt
      simp only [List.foldl_nil, List.length_nil, spelled]
      omega
  | append_singleton bits bit induction =>
      have earlier : spelled (levelOfBits (bits ++ [bit])) bits.length =
          spelled (levelOfBits bits) bits.length := by
        apply spelled_congr
        intro slot inside
        rw [levelOfBits, levelOfBits, List.getD_eq_getElem?_getD,
          List.getElem?_append_left inside, ← List.getD_eq_getElem?_getD]
      have latest : levelOfBits (bits ++ [bit]) bits.length = levelOf bit := by
        simp [levelOfBits]
      have doubled : frame.rawData.toNat * 2 ^ (bits.length + 1) =
          2 * (frame.rawData.toNat * 2 ^ bits.length) := by
        ring
      rw [List.foldl_append, List.foldl_cons, List.foldl_nil, pushLevel,
        shift_in, induction, List.length_append, List.length_singleton, spelled,
        earlier, latest, doubled]
      omega

theorem spelled_testBit (value count : Nat) :
    spelled (fun slot => levelOf (value.testBit (count - 1 - slot))) count =
      value % 2 ^ count := by
  induction count generalizing value with
  | zero => simp [spelled, Nat.mod_one]
  | succ count induction =>
      have front : spelled (fun slot =>
          levelOf (value.testBit (count + 1 - 1 - slot))) count =
            value / 2 % 2 ^ count := by
        rw [← induction (value / 2)]
        apply spelled_congr
        intro slot inside
        have place : count + 1 - 1 - slot = count - 1 - slot + 1 := by omega
        simp only [place, Nat.testBit_succ]
      have last : bit (levelOf (value.testBit (count + 1 - 1 - count))) =
          value % 2 := by
        have place : count + 1 - 1 - count = 0 := by omega
        rw [place, Nat.testBit_zero]
        by_cases odd : value % 2 = 1
        · simp [odd, levelOf, bit]
        · have even : value % 2 = 0 := by omega
          simp [even, levelOf, bit]
      rw [spelled, front, last, Nat.pow_succ, Nat.mul_comm (2 ^ count),
        Nat.mod_mul]
      omega

theorem receivedByte_frameBits (bytes : Nat → UInt8) {index : Nat}
    (inside : index < 5) :
    receivedByte (levelOfBits (frameBits bytes)) index = bytes index := by
  have spelt : spelled
      (fun slot => levelOfBits (frameBits bytes) (8 * index + slot)) 8 =
        (bytes index).toNat := by
    rw [← Nat.mod_eq_of_lt (bytes index).toNat_lt, ← spelled_testBit]
    apply spelled_congr
    intro slot within
    have place : 8 * index + slot < frameLength := by
      rw [show frameLength = 40 from rfl]
      omega
    have byte : (8 * index + slot) / 8 = index := by omega
    have row : (8 * index + slot) % 8 = slot := by omega
    simp [levelOfBits, frameBits, List.getD_eq_getElem?_getD, place, byte, row]
  rw [receivedByte, spelt, UInt8.ofNat_toNat]

end Frames

theorem DataFrame.Holds.congr {frame : DataFrame} {bytes others : Nat → UInt8}
    (holds : frame.Holds bytes)
    (same : ∀ index, index < 5 → bytes index = others index) :
    frame.Holds others where
  humidityInteger := holds.humidityInteger.trans (same 0 (by decide))
  humidityFraction := holds.humidityFraction.trans (same 1 (by decide))
  temperatureInteger := holds.temperatureInteger.trans (same 2 (by decide))
  temperatureFraction := holds.temperatureFraction.trans (same 3 (by decide))
  checksum := holds.checksum.trans (same 4 (by decide))

theorem getMeasurement_of_holds {config : Config} {frame : DataFrame}
    {port : Port} {bytes : Nat → UInt8}
    (present : (readDataFrame config frame port).1 = .present)
    (holds : (readDataFrame config frame port).2.1.Holds bytes) :
    (getMeasurement config frame port).1 = decode bytes := by
  rcases read : readDataFrame config frame port with ⟨detect, register, after⟩
  rw [read] at present holds
  obtain rfl : detect = .present := present
  have checked := holds.valid_iff
  rw [getMeasurement, read, decode]
  dsimp only
  by_cases checks : Checks bytes
  · rw [if_pos checks, checked.mpr checks]
    simp only [holds.humidityInteger, holds.temperatureInteger]
  · have invalid : validateChecksum register = .invalid := by
      cases outcome : validateChecksum register with
      | invalid => rfl
      | valid => exact absurd (checked.mp outcome) checks
    rw [if_neg checks, invalid]

def Watch.start : Watch := ⟨0, 0, fun _ => .high, []⟩

section Measurement

variable {clock : Clock} {timing : Timing} {zeros : Nat} {pace : Nat → Nat}
variable (compatible : Compatible clock timing zeros)
variable (prompt : ∀ step, pace step ≤ clock.slack)

include compatible prompt

theorem readDataFrame_timed {answer : Answer} (within : answer.Within timing)
    {bytes : Nat → UInt8} (sends : answer.bits = frameBits bytes)
    (rows : ZerosWithin zeros zeros answer.bits) (frame : DataFrame)
    (watch : Watch) :
    (watch.readDataFrame clock pace (answer.sensor timing) frame).1 =
        .present ∧
      (watch.readDataFrame clock pace (answer.sensor timing) frame).2.1.Holds
        (receivedByte (levelOfBits (frameBits bytes))) := by
  obtain ⟨present, timely⟩ := reset_timely prompt compatible within watch
  have count : answer.cells.length = frameLength := by
    have lengths := congrArg List.length sends
    simpa [Answer.bits, frameBits] using lengths
  have received := readBits_cells prompt compatible within.cells within.last
    rows timely frame
  rw [count] at received
  have register := rawData_pushed (frameBits bytes) frame
  rw [← sends] at register
  have bits : answer.cells.map Cell.bit = answer.bits := rfl
  rw [bits] at received
  rw [← received, sends] at register
  rcases reached : watch.reset clock pace (answer.sensor timing) with
    ⟨detect, listening⟩
  rw [reached] at present register
  obtain rfl : detect = .present := present
  have length : (frameBits bytes).length = frameLength := by simp [frameBits]
  rw [length] at register
  rw [Watch.readDataFrame, reached]
  exact ⟨rfl, holds_of_register register⟩

/-- Whatever time the driver's steps take, and whatever the lengths of its
pulses, a frame that the sensor sends is the one that is measured. -/
theorem getMeasurement_timed {answer : Answer} (within : answer.Within timing)
    {bytes : Nat → UInt8} (sends : answer.bits = frameBits bytes)
    (rows : ZerosWithin zeros zeros answer.bits) (config : Config)
    (frame : DataFrame) (port : Port)
    (shows : port.Shows (Watch.start.readDataFrame clock pace
      (answer.sensor timing) frame).2.2.samples) :
    (getMeasurement config frame port).1 = decode bytes := by
  obtain ⟨present, holds⟩ := readDataFrame_timed compatible prompt within sends
    rows frame Watch.start
  obtain ⟨taken, samples, shown⟩ := @Watch.readDataFrame_shown clock pace config
    (answer.sensor timing) frame Watch.start
  have same : (Watch.start.readDataFrame clock pace (answer.sensor timing)
      frame).2.2.samples = taken := samples
  rw [same] at shows
  obtain ⟨detect, register⟩ := shown port shows
  rw [present] at detect
  rw [← register] at holds
  exact getMeasurement_of_holds detect
    (holds.congr fun _ inside => receivedByte_frameBits bytes inside)

end Measurement

instance decideZerosWithin (zeros : Nat) : (budget : Nat) →
    (bits : List Bool) → Decidable (ZerosWithin zeros budget bits)
  | _, [] => isTrue trivial
  | 0, false :: _ => isFalse id
  | budget + 1, false :: bits => decideZerosWithin zeros budget bits
  | 0, true :: bits => decideZerosWithin zeros zeros bits
  | _ + 1, true :: bits => decideZerosWithin zeros zeros bits

def typicalClock : Clock :=
  ⟨32, 128, 8⟩

/-- Lows of 50 us, zeros of 27 to 28 and ones of 70, at 32 ticks each. -/
def typicalTiming : Timing :=
  ⟨576000, ⟨832, 896, by decide⟩, ⟨2560, 2560, by decide⟩,
    ⟨2560, 2560, by decide⟩, ⟨1600, 1600, by decide⟩, ⟨864, 896, by decide⟩,
    ⟨2240, 2240, by decide⟩⟩

theorem typical_compatible : Compatible typicalClock typicalTiming 24 :=
  ⟨by decide, by decide, by decide, by decide, by decide, by decide,
    by decide, by decide, by decide, by decide⟩

/-- 45 per cent at 23 degrees. -/
def mildBytes (index : Nat) : UInt8 :=
  [45, 0, 23, 0, 68].getD index 0

def mildAnswer : Answer where
  response := 864
  presenceLow := 2560
  presenceHigh := 2560
  cells := (frameBits mildBytes).map fun bit =>
    ⟨bit, 1600, if bit then 2240 else 880⟩
  last := 1600

theorem mild_within : mildAnswer.Within typicalTiming := by
  refine ⟨by decide, by decide, by decide, ?_, by decide⟩
  intro cell member
  obtain ⟨bit, -, rfl⟩ := List.mem_map.mp member
  cases bit with
  | false => exact ⟨by decide, by decide⟩
  | true => exact ⟨by decide, by decide⟩

/-- Read by a driver that is late at every other step. -/
theorem getMeasurement_timed_mild :
    (getMeasurement ⟨15⟩ ⟨0⟩ (Port.showing (Watch.start.readDataFrame
      typicalClock (fun step => 8 * (step % 2))
        (mildAnswer.sensor typicalTiming) ⟨0⟩).2.2.samples)).1 =
      decode mildBytes :=
  getMeasurement_timed typical_compatible
    (fun step => by
      have bound := Nat.mod_lt step Nat.two_pos
      simp only [typicalClock]
      omega)
    mild_within rfl (by decide +kernel) ⟨15⟩ ⟨0⟩ _ (Port.showing_shows _)

end DHT11

end QuarkMeteoStation
