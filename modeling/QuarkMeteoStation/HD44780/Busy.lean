import QuarkMeteoStation.Board.Lines
import QuarkMeteoStation.HD44780.Bus
import QuarkMeteoStation.Onewire.Slots

namespace QuarkMeteoStation

open Library

/-! The driver never asks the display whether it is busy. It relies on its delays,
and on the time that its accesses to the port take. -/

namespace HD44780

open Onewire (Clock)

inductive Act
  | setPinState (pin : UInt8) (state : QmGpioState)
  /-- `clk_sys_udelay`. -/
  | udelay (microseconds : Nat)
  deriving DecidableEq, Repr

def Act.perform (port : Port) : Act → Port
  | setPinState pin state => port.setPinState pin state
  | udelay _ => port

def Act.least (clock : Clock) : Act → Nat
  | setPinState _ _ => clock.access
  | udelay microseconds => clock.ticksPerUs * microseconds

def setNibbleScript (pins : Pins) (d7 d6 d5 d4 : QmGpioState) : List Act :=
  [.setPinState pins.d7 d7, .setPinState pins.d6 d6, .setPinState pins.d5 d5,
    .setPinState pins.d4 d4]

def pulseEnableScript (pins : Pins) : List Act :=
  [.setPinState pins.e .high, .udelay 1, .setPinState pins.e .low]

local instance bitsNonempty : NeZero 8 := ⟨by decide⟩

/-- Up to the first falling edge of E. -/
def leadScript (pins : Pins) (write : Write) : List Act :=
  let byte := write.byte
  .setPinState pins.rs (rsState write.mode) ::
    setNibbleScript pins (bitState byte 7) (bitState byte 6) (bitState byte 5)
      (bitState byte 4) ++
    pulseEnableScript pins

def followScript (pins : Pins) (write : Write) : List Act :=
  let byte := write.byte
  setNibbleScript pins (bitState byte 3) (bitState byte 2) (bitState byte 1)
      (bitState byte 0) ++
    pulseEnableScript pins

def writeByteScript (pins : Pins) (write : Write) : List Act :=
  leadScript pins write ++ followScript pins write

/-- The writes of a call, each with the delay behind it. -/
def Call.delayed (config : Config) : Call → List (Write × Nat)
  | .clear => (HD44780.clear config).map (·, 1000)
  | call => (call.writes config).map (·, 0)

def delayScript (microseconds : Nat) : List Act :=
  if microseconds = 0 then [] else [.udelay microseconds]

def script (pins : Pins) (writes : List (Write × Nat)) : List Act :=
  writes.flatMap fun (write, microseconds) =>
    writeByteScript pins write ++ delayScript microseconds

theorem perform_writeByte (pins : Pins) (write : Write) (port : Port) :
    (writeByteScript pins write).foldl Act.perform port =
      writeByte pins write port := rfl

theorem script_cons (pins : Pins) (write : Write × Nat)
    (writes : List (Write × Nat)) :
    script pins (write :: writes) =
      leadScript pins write.1 ++ followScript pins write.1 ++
        delayScript write.2 ++ script pins writes := rfl

/-- Without the delays the calls are those of the driver. -/
theorem perform_script (pins : Pins) (writes : List (Write × Nat))
    (port : Port) :
    (script pins writes).foldl Act.perform port =
      writeAll pins (writes.map Prod.fst) port := by
  induction writes generalizing port with
  | nil => rfl
  | cons write writes induction =>
      have delayed (port : Port) :
          (delayScript write.2).foldl Act.perform port = port := by
        unfold delayScript
        split <;> rfl
      rw [script_cons, ← writeByteScript, List.foldl_append, List.foldl_append,
        perform_writeByte, delayed, induction]
      rfl

theorem Call.delayed_writes (config : Config) (call : Call) :
    (call.delayed config).map Prod.fst = call.writes config := by
  cases call <;> simp [Call.delayed, Call.writes, List.map_map,
    Function.comp_def]

/-- How long the display executes what it has received. -/
structure Execution where
  ordinary : Nat
  /-- Clearing the memory, and moving back to its start. -/
  clearing : Nat
  deriving DecidableEq, Repr

def Execution.of (execution : Execution) (write : Write) : Nat :=
  if write.mode = .instruction ∧ 0x01 ≤ write.byte ∧ write.byte < 0x04 then
    execution.clearing
  else execution.ordinary

structure Panel where
  port : Port
  now : Nat
  interface : Interface
  /-- When it will have executed what it received last. -/
  freeAt : Nat

structure Arrival where
  pulse : Pulse
  ready : Bool
  deriving DecidableEq, Repr

namespace Panel

variable (pins : Pins) (execution : Execution) (undriven : Nibble)

/-- A falling edge of E on the lines as they are. -/
def fall (panel : Panel) : Panel :=
  let input := (pulseAt pins panel.port.latch, undriven)
  { panel with
    interface := panel.interface.next input
    freeAt :=
      match panel.interface.received input with
      | some write => panel.now + execution.of write
      | none => panel.freeAt }

/-- The driver's side of a step. -/
def moved (panel : Panel) (act : Act) (duration : Nat) : Panel :=
  { panel with
    port := act.perform panel.port
    now := panel.now + duration }

/-- A display between two bytes. -/
structure Waiting (pins : Pins) (panel : Panel) : Prop where
  fourBit : panel.interface = .expecting
  low : Port.isSet panel.port.latch pins.e = false

def Falls (panel : Panel) (act : Act) : Prop :=
  Port.isSet panel.port.latch pins.e = true ∧
    Port.isSet (act.perform panel.port).latch pins.e = false

instance (panel : Panel) (act : Act) : Decidable (panel.Falls pins act) :=
  inferInstanceAs (Decidable (_ ∧ _))

def machine : Machine Panel (Act × Nat) Arrival where
  start := fun panel => panel.Waiting pins ∧ panel.freeAt ≤ panel.now
  step := fun panel (act, duration) =>
    if panel.Falls pins act then
      (panel.moved act duration).fall pins execution undriven
    else panel.moved act duration
  output := fun panel (act, duration) =>
    if panel.Falls pins act then
      some
        ⟨pulseAt pins (act.perform panel.port).latch,
          panel.freeAt ≤ panel.now + duration⟩
    else none

end Panel

def Act.Takes (clock : Clock) (act : Act) (input : Act × Nat) : Prop :=
  input.1 = act ∧ act.least clock ≤ input.2 ∧
    input.2 ≤ act.least clock + clock.slack

def Performs (clock : Clock) (script : List Act) (inputs : List (Act × Nat)) :
    Prop :=
  List.Forall₂ (Act.Takes clock) script inputs

def elapsed (inputs : List (Act × Nat)) : Nat :=
  (inputs.map Prod.snd).sum

/-- The driver as fast as it can be. -/
def prompt (clock : Clock) (script : List Act) : List (Act × Nat) :=
  script.map fun act => (act, act.least clock)

/-- The least from the last edge of a byte to the first of the next. -/
def gap (clock : Clock) : Nat :=
  7 * clock.access + clock.ticksPerUs

section Performed

variable {clock : Clock} {script : List Act} {inputs : List (Act × Nat)}

theorem elapsed_cons (input : Act × Nat) (rest : List (Act × Nat)) :
    elapsed (input :: rest) = input.2 + elapsed rest := by
  simp only [elapsed, List.map_cons, List.sum_cons]

theorem elapsed_append (earlier later : List (Act × Nat)) :
    elapsed (earlier ++ later) = elapsed earlier + elapsed later := by
  simp only [elapsed, List.map_append, List.sum_append]

theorem Performs.uncons {act : Act}
    (performs : Performs clock (act :: script) inputs) :
    ∃ duration rest, inputs = (act, duration) :: rest ∧
      Performs clock script rest := by
  cases performs with
  | cons first rest =>
      obtain ⟨rfl, -⟩ := first
      exact ⟨_, _, rfl, rest⟩

theorem Performs.split {first second : List Act}
    (performs : Performs clock (first ++ second) inputs) :
    ∃ earlier later, inputs = earlier ++ later ∧
      Performs clock first earlier ∧ Performs clock second later := by
  refine ⟨inputs.take first.length, inputs.drop first.length,
    (List.take_append_drop _ _).symm, ?_, ?_⟩
  · have begun := List.forall₂_take first.length performs
    rwa [List.take_left] at begun
  · have done := List.forall₂_drop first.length performs
    rwa [List.drop_left] at done

theorem Performs.least_le (performs : Performs clock script inputs) :
    (script.map (Act.least clock)).sum ≤ elapsed inputs := by
  induction performs with
  | nil => exact Nat.le_refl 0
  | cons taken _ induction =>
      rw [List.map_cons, List.sum_cons, elapsed_cons]
      exact Nat.add_le_add taken.2.1 induction

theorem performs_prompt (clock : Clock) (script : List Act) :
    Performs clock script (prompt clock script) := by
  induction script with
  | nil => exact .nil
  | cons act script induction =>
      exact .cons ⟨rfl, Nat.le_refl _, Nat.le_add_right _ _⟩ induction

theorem elapsed_prompt (clock : Clock) (script : List Act) :
    elapsed (prompt clock script) = (script.map (Act.least clock)).sum := by
  simp only [elapsed, prompt, List.map_map, Function.comp_def]

theorem sum_leadScript (clock : Clock) (pins : Pins) (write : Write) :
    ((leadScript pins write).map (Act.least clock)).sum = gap clock := by
  simp only [leadScript, setNibbleScript, pulseEnableScript, List.cons_append,
    List.nil_append, List.map_cons, List.map_nil, List.sum_cons, List.sum_nil,
    Act.least, gap]
  omega

theorem sum_delayScript (clock : Clock) (microseconds : Nat) :
    ((delayScript microseconds).map (Act.least clock)).sum =
      clock.ticksPerUs * microseconds := by
  unfold delayScript
  split
  next none => rw [none, List.map_nil, List.sum_nil, Nat.mul_zero]
  next => rfl

end Performed

section Pulsed

variable {pins : Pins} {execution : Execution} {undriven : Nibble}
variable {panel : Panel}

theorem exec_quiet {act : Act} (quiet : ¬panel.Falls pins act) (duration : Nat)
    (rest : List (Act × Nat)) :
    (Panel.machine pins execution undriven).exec panel
        ((act, duration) :: rest) =
      (Panel.machine pins execution undriven).exec (panel.moved act duration)
        rest ∧
    (Panel.machine pins execution undriven).trace panel
        ((act, duration) :: rest) =
      (Panel.machine pins execution undriven).trace (panel.moved act duration)
        rest := by
  simp only [Machine.exec_cons, Machine.trace_cons, Panel.machine,
    if_neg quiet, Option.toList_none, List.nil_append, and_self]

theorem quiet_of_low (low : Port.isSet panel.port.latch pins.e = false)
    (act : Act) : ¬panel.Falls pins act := by
  intro falls
  rw [falls.1] at low
  exact Bool.noConfusion low

/-- The acts that leave E alone. -/
def Act.Spares (pins : Pins) : Act → Prop
  | setPinState pin _ => pin ∈ pins.toList ∧ pins.e ≠ pin
  | udelay _ => True

theorem Act.Spares.low {act : Act} (spares : act.Spares pins)
    (valid : pins.Valid) {port : Port}
    (low : Port.isSet port.latch pins.e = false) :
    Port.isSet (act.perform port).latch pins.e = false := by
  cases act with
  | setPinState pin state =>
      obtain ⟨member, other⟩ := spares
      rw [Act.perform, Port.isSet_latch_setPinState (valid.inWord member),
        if_neg other]
      exact low
  | udelay _ => exact low

/-- While E is left low the display sees nothing. -/
theorem exec_spares {clock : Clock} (valid : pins.Valid)
    (low : Port.isSet panel.port.latch pins.e = false) {acts : List Act}
    (spares : ∀ act ∈ acts, act.Spares pins) {inputs : List (Act × Nat)}
    (performs : Performs clock acts inputs) :
    (Panel.machine pins execution undriven).exec panel inputs =
        { panel with
          port := acts.foldl Act.perform panel.port
          now := panel.now + elapsed inputs } ∧
      (Panel.machine pins execution undriven).trace panel inputs = [] ∧
      Port.isSet (acts.foldl Act.perform panel.port).latch pins.e = false := by
  induction performs generalizing panel with
  | nil => exact ⟨rfl, rfl, low⟩
  | @cons act input _ rest taken _ induction =>
      obtain ⟨_, duration⟩ := input
      obtain ⟨rfl, -⟩ := taken
      obtain ⟨moves, movesTrace⟩ := @exec_quiet pins execution undriven panel _
        (quiet_of_low low _) duration rest
      obtain ⟨settles, silent, stillLow⟩ := @induction (panel.moved _ duration)
        ((spares _ List.mem_cons_self).low valid low)
        fun act member => spares act (List.mem_cons_of_mem _ member)
      refine ⟨?_, movesTrace.trans silent, stillLow⟩
      rw [moves, settles, elapsed_cons, ← Nat.add_assoc]
      rfl

/-- Raising and lowering E, from any panel on which it is low. -/
theorem exec_pulseEnable {clock : Clock} (valid : pins.Valid)
    (low : Port.isSet panel.port.latch pins.e = false)
    {inputs : List (Act × Nat)}
    (performs : Performs clock (pulseEnableScript pins) inputs) :
    let lowered : Panel :=
      { panel with
        port := pulseEnable pins panel.port
        now := panel.now + elapsed inputs }
    (Panel.machine pins execution undriven).exec panel inputs =
        lowered.fall pins execution undriven ∧
      (Panel.machine pins execution undriven).trace panel inputs =
        [⟨pulseAt pins panel.port.latch, panel.freeAt ≤ lowered.now⟩] := by
  have inPort : pins.e.toNat < 32 := valid.inWord (by simp [Pins.toList])
  obtain ⟨rise, afterRise, rfl, fromWait⟩ := performs.uncons
  obtain ⟨wait, afterWait, rfl, fromFall⟩ := fromWait.uncons
  obtain ⟨fall, _, rfl, done⟩ := fromFall.uncons
  cases done
  let raised := panel.moved (.setPinState pins.e .high) rise
  have high : Port.isSet raised.port.latch pins.e = true := by
    change Port.isSet (panel.port.setPinState pins.e .high).latch pins.e = true
    rw [Port.isSet_latch_setPinState inPort, if_pos rfl]
    rfl
  have waits : ¬raised.Falls pins (.udelay 1) := by
    intro falls
    exact Bool.noConfusion (high.symm.trans falls.2)
  let waited := raised.moved (.udelay 1) wait
  have falls : waited.Falls pins (.setPinState pins.e .low) := by
    refine ⟨high, ?_⟩
    change Port.isSet (waited.port.setPinState pins.e .low).latch pins.e = false
    rw [Port.isSet_latch_setPinState inPort, if_pos rfl]
    rfl
  have shown : pulseAt pins (pulseEnable pins panel.port).latch =
      pulseAt pins panel.port.latch := pulseAt_pulseEnable valid
  have total : panel.now + elapsed [(Act.setPinState pins.e .high, rise),
      (.udelay 1, wait), (.setPinState pins.e .low, fall)] =
      waited.now + fall := by
    simp only [elapsed, List.map_cons, List.map_nil, List.sum_cons,
      List.sum_nil, waited, raised, Panel.moved]
    omega
  obtain ⟨raises, raisesTrace⟩ := @exec_quiet pins execution undriven panel _
    (quiet_of_low low (.setPinState pins.e .high)) rise _
  obtain ⟨stays, staysTrace⟩ := @exec_quiet pins execution undriven raised _
    waits wait _
  rw [total]
  refine ⟨raises.trans (stays.trans ?_), raisesTrace.trans (staysTrace.trans ?_)⟩
  · simp only [Machine.exec_cons, Machine.exec_nil, Panel.machine]
    exact if_pos falls
  · simp only [Machine.trace_cons, Machine.trace_nil, Panel.machine]
    rw [← shown]
    exact congrArg (fun arrival : Option Arrival => arrival.toList ++ [])
      (if_pos falls)

/-- The lines are set and E is pulsed once. -/
theorem exec_edge {clock : Clock} (valid : pins.Valid)
    (low : Port.isSet panel.port.latch pins.e = false) {acts : List Act}
    (spares : ∀ act ∈ acts, act.Spares pins) {inputs : List (Act × Nat)}
    (performs : Performs clock (acts ++ pulseEnableScript pins) inputs) :
    let port := acts.foldl Act.perform panel.port
    let lowered : Panel :=
      { panel with
        port := pulseEnable pins port
        now := panel.now + elapsed inputs }
    (Panel.machine pins execution undriven).exec panel inputs =
        lowered.fall pins execution undriven ∧
      (Panel.machine pins execution undriven).trace panel inputs =
        [⟨pulseAt pins port.latch, panel.freeAt ≤ lowered.now⟩] := by
  obtain ⟨setting, pulse, rfl, sets, pulses⟩ := performs.split
  obtain ⟨settled, silent, stillLow⟩ := @exec_spares pins execution undriven
    panel clock valid low acts spares setting sets
  rw [elapsed_append, ← Nat.add_assoc, Machine.exec_append,
    Machine.trace_append, silent, settled, List.nil_append]
  exact exec_pulseEnable valid stillLow pulses

theorem pulseAt_nibble {port : Port} {mode : Mode} (valid : pins.Valid)
    (selected : Port.isSet port.latch pins.rs = Port.isHigh (rsState mode))
    (d7 d6 d5 d4 : QmGpioState) :
    pulseAt pins (setNibble pins d7 d6 d5 d4 port).latch =
      ⟨mode, Fin.ofNat 16 (8 * (Port.isHigh d7).toNat +
        4 * (Port.isHigh d6).toNat + 2 * (Port.isHigh d5).toNat +
        (Port.isHigh d4).toNat)⟩ := by
  rw [pulseAt_setNibble valid, selected]
  cases mode <;> rfl

theorem Panel.fall_expecting (fourBit : panel.interface = .expecting)
    {pulse : Pulse} (shown : pulseAt pins panel.port.latch = pulse) :
    panel.fall pins execution undriven =
      { panel with interface := .pending pulse.nibble } := by
  simp only [fall, fourBit, shown, Interface.next, Interface.received]

theorem Panel.fall_pending {high : Nibble}
    (half : panel.interface = .pending high) {pulse : Pulse}
    (shown : pulseAt pins panel.port.latch = pulse) :
    panel.fall pins execution undriven =
      { panel with
        interface := (Interface.selected pulse.mode high).getD .expecting
        freeAt := panel.now + execution.of
          ⟨join high pulse.nibble, pulse.mode⟩ } := by
  simp only [fall, half, shown, Interface.next, Interface.received]

theorem spares_setNibble (valid : pins.Valid) (d7 d6 d5 d4 : QmGpioState) :
    ∀ act ∈ setNibbleScript pins d7 d6 d5 d4, act.Spares pins := by
  have apart := valid.apart
  simp [setNibbleScript, Act.Spares, Pins.toList, apart.eD4, apart.eD5,
    apart.eD6, apart.eD7]

/-- What comes of one byte: it is executed from its second edge on, and only the
first can come too early. -/
theorem exec_writeByte {clock : Clock} (valid : pins.Valid)
    (waiting : panel.Waiting pins) {write : Write}
    (fourBit : ¬SelectsEightBit write) {lead follow : List (Act × Nat)}
    (leads : Performs clock (leadScript pins write) lead)
    (follows : Performs clock (followScript pins write) follow) :
    let edge := panel.now + elapsed lead + elapsed follow
    (Panel.machine pins execution undriven).exec panel (lead ++ follow) =
        { port := writeByte pins write panel.port
          now := edge
          interface := .expecting
          freeAt := edge + execution.of write } ∧
      (Panel.machine pins execution undriven).trace panel (lead ++ follow) =
        [⟨⟨write.mode, upper write.byte⟩,
            panel.freeAt ≤ panel.now + elapsed lead⟩,
          ⟨⟨write.mode, lower write.byte⟩, panel.freeAt ≤ edge⟩] := by
  intro edge
  have inPort : pins.rs.toNat < 32 := valid.inWord (by simp [Pins.toList])
  let chosen := panel.port.setPinState pins.rs (rsState write.mode)
  have selected : Port.isSet chosen.latch pins.rs =
      Port.isHigh (rsState write.mode) := by
    rw [Port.isSet_latch_setPinState inPort, if_pos rfl]
  have upperPulse := @pulseAt_nibble pins _ _ valid selected
    (bitState write.byte 7) (bitState write.byte 6) (bitState write.byte 5)
    (bitState write.byte 4)
  rw [upper_eq] at upperPulse
  have sparesRs :
      (Act.setPinState pins.rs (rsState write.mode)).Spares pins :=
    ⟨by simp [Pins.toList], valid.apart.rsE.symm⟩
  obtain ⟨first, firstTrace⟩ := @exec_edge pins execution undriven panel clock
    valid waiting.low _ (List.forall_mem_cons.mpr
      ⟨sparesRs, spares_setNibble valid _ _ _ _⟩) lead leads
  let between : Panel :=
    { port := pulseEnable pins (setNibble pins (bitState write.byte 7)
        (bitState write.byte 6) (bitState write.byte 5)
        (bitState write.byte 4) chosen)
      now := panel.now + elapsed lead
      interface := .pending (upper write.byte)
      freeAt := panel.freeAt }
  have begun : (Panel.machine pins execution undriven).exec panel lead =
      between :=
    first.trans (@Panel.fall_expecting pins execution undriven
      { panel with port := between.port, now := between.now } waiting.fourBit _
      ((pulseAt_pulseEnable valid).trans upperPulse))
  have stillSelected : Port.isSet between.port.latch pins.rs =
      Port.isHigh (rsState write.mode) := by
    rw [isSet_rs_pulseEnable valid, isSet_rs_setNibble valid, selected]
  have lowerPulse := @pulseAt_nibble pins _ _ valid stillSelected
    (bitState write.byte 3) (bitState write.byte 2) (bitState write.byte 1)
    (bitState write.byte 0)
  rw [lower_eq] at lowerPulse
  obtain ⟨second, secondTrace⟩ := @exec_edge pins execution undriven between
    clock valid (by rw [isSet_pulseEnable valid, if_pos rfl]) _
    (spares_setNibble valid _ _ _ _) follow follows
  have done := @Panel.fall_pending pins execution undriven
    { between with port := writeByte pins write panel.port, now := edge } _ rfl
    ⟨write.mode, lower write.byte⟩ ((pulseAt_pulseEnable valid).trans lowerPulse)
  have fourBitAgain := afterWrite_of_not_selects fourBit
  unfold Interface.afterWrite at fourBitAgain
  rw [join_upper_lower, fourBitAgain] at done
  rw [Machine.exec_append, Machine.trace_append, firstTrace, begun, secondTrace]
  refine ⟨second.trans done, ?_⟩
  rw [← upperPulse, ← lowerPulse]
  rfl

theorem spares_delay (microseconds : Nat) :
    ∀ act ∈ delayScript microseconds, act.Spares pins := by
  unfold delayScript
  split <;> simp [Act.Spares]

/-- A byte with the delay behind it. -/
theorem exec_write {clock : Clock} (valid : pins.Valid)
    (waiting : panel.Waiting pins) {write : Write × Nat}
    (fourBit : ¬SelectsEightBit write.1) {lead follow pause : List (Act × Nat)}
    (leads : Performs clock (leadScript pins write.1) lead)
    (follows : Performs clock (followScript pins write.1) follow)
    (pauses : Performs clock (delayScript write.2) pause) :
    let after := (Panel.machine pins execution undriven).exec panel
      (lead ++ follow ++ pause)
    after.Waiting pins ∧
      after.freeAt + elapsed pause = after.now + execution.of write.1 ∧
      (Panel.machine pins execution undriven).trace panel
          (lead ++ follow ++ pause) =
        [⟨⟨write.1.mode, upper write.1.byte⟩,
            panel.freeAt ≤ panel.now + elapsed lead⟩,
          ⟨⟨write.1.mode, lower write.1.byte⟩,
            panel.freeAt ≤ panel.now + elapsed lead + elapsed follow⟩] := by
  intro after
  obtain ⟨written, writtenTrace⟩ := @exec_writeByte pins execution undriven
    panel clock valid waiting write.1 fourBit lead follow leads follows
  have stillLow : Port.isSet ((Panel.machine pins execution undriven).exec panel
      (lead ++ follow)).port.latch pins.e = false := by
    rw [written, writeByte, isSet_pulseEnable valid, if_pos rfl]
  obtain ⟨delayed, silent, lowAfter⟩ := @exec_spares pins execution undriven _
    clock valid stillLow _ (spares_delay write.2) pause pauses
  have reached : after = _ := (Machine.exec_append _ _ _ _).trans delayed
  rw [Machine.trace_append, silent, writtenTrace, List.append_nil, reached]
  refine ⟨⟨?_, lowAfter⟩, ?_, rfl⟩
  · rw [written]
  · rw [written]
    exact Nat.add_right_comm _ _ _

/-- The display has executed a byte when the next one can begin. -/
def InTime (clock : Clock) (execution : Execution) (write : Write × Nat) :
    Prop :=
  execution.of write.1 ≤ clock.ticksPerUs * write.2 + gap clock

/-- Every byte as its two pulses, none of them too early. -/
def arrivals (writes : List Write) : List Arrival :=
  (writes.flatMap pulsesOf).map (⟨·, true⟩)

theorem arrivals_cons (write : Write) (writes : List Write) :
    arrivals (write :: writes) =
      [⟨⟨write.mode, upper write.byte⟩, true⟩,
        ⟨⟨write.mode, lower write.byte⟩, true⟩] ++ arrivals writes := rfl

theorem trace_of_inTime {clock : Clock} (valid : pins.Valid)
    {writes : List (Write × Nat)}
    (fourBit : ∀ write ∈ writes, ¬SelectsEightBit write.1)
    (inTime : ∀ write ∈ writes.dropLast, InTime clock execution write)
    (waiting : panel.Waiting pins) (free : panel.freeAt ≤ panel.now + gap clock)
    {inputs : List (Act × Nat)}
    (performs : Performs clock (script pins writes) inputs) :
    (Panel.machine pins execution undriven).trace panel inputs =
      arrivals (writes.map Prod.fst) := by
  induction writes generalizing panel inputs with
  | nil =>
      cases performs
      rfl
  | cons write writes induction =>
      rw [script_cons] at performs
      obtain ⟨_, later, rfl, whole, rest⟩ := performs.split
      obtain ⟨_, pause, rfl, byte, pauses⟩ := whole.split
      obtain ⟨lead, follow, rfl, leads, follows⟩ := byte.split
      obtain ⟨stillWaiting, executed, traced⟩ :=
        @exec_write pins execution undriven panel clock valid waiting write
          (fourBit write List.mem_cons_self) lead follow pause leads follows
          pauses
      have led : gap clock ≤ elapsed lead := by
        rw [← sum_leadScript clock pins write.1]
        exact leads.least_le
      have paused : clock.ticksPerUs * write.2 ≤ elapsed pause := by
        rw [← sum_delayScript]
        exact pauses.least_le
      have early : panel.freeAt ≤ panel.now + elapsed lead :=
        Nat.le_trans free (Nat.add_le_add_left led _)
      have late : panel.freeAt ≤ panel.now + elapsed lead + elapsed follow :=
        Nat.le_trans early (Nat.le_add_right _ _)
      rw [Machine.trace_append, traced, List.map_cons, arrivals_cons,
        decide_eq_true early, decide_eq_true late]
      apply congrArg
      cases writes with
      | nil =>
          cases rest
          rfl
      | cons next writes =>
          rw [List.dropLast_cons_cons] at inTime
          have executes := inTime write List.mem_cons_self
          unfold InTime at executes
          exact induction
            (fun other member => fourBit other (List.mem_cons_of_mem _ member))
            (fun other member => inTime other (List.mem_cons_of_mem _ member))
            stillWaiting (by omega) rest

theorem prompt_append (clock : Clock) (first second : List Act) :
    prompt clock (first ++ second) =
      prompt clock first ++ prompt clock second :=
  List.map_append

/-- Against the driver at its fastest the bounds cannot be less. -/
theorem inTime_of_prompt {clock : Clock} (valid : pins.Valid)
    {writes : List (Write × Nat)}
    (fourBit : ∀ write ∈ writes, ¬SelectsEightBit write.1)
    (waiting : panel.Waiting pins)
    (ready : ∀ arrival ∈ (Panel.machine pins execution undriven).trace panel
      (prompt clock (script pins writes)), arrival.ready = true) :
    ∀ write ∈ writes.dropLast, InTime clock execution write := by
  induction writes generalizing panel with
  | nil => simp
  | cons write writes induction =>
      cases writes with
      | nil => simp
      | cons next writes =>
          rw [script_cons, prompt_append, prompt_append, prompt_append,
            Machine.trace_append] at ready
          obtain ⟨stillWaiting, executed, -⟩ :=
            @exec_write pins execution undriven panel clock valid waiting write
              (fourBit write List.mem_cons_self) _ _ _ (performs_prompt _ _)
              (performs_prompt _ _) (performs_prompt _ _)
          have remaining := fun arrival member =>
            ready arrival (List.mem_append_right _ member)
          have others : ∀ write ∈ next :: writes, ¬SelectsEightBit write.1 :=
            fun other member => fourBit other (List.mem_cons_of_mem _ member)
          rw [List.dropLast_cons_cons]
          intro other member
          rcases List.mem_cons.mp member with rfl | later
          · obtain ⟨-, -, traced⟩ :=
              @exec_write pins execution undriven _ clock valid stillWaiting
                next (others next List.mem_cons_self) _ _ _
                (performs_prompt _ _) (performs_prompt _ _)
                (performs_prompt _ _)
            rw [script_cons, prompt_append, prompt_append, prompt_append,
              Machine.trace_append, traced] at remaining
            have first := of_decide_eq_true (remaining _ List.mem_cons_self)
            rw [elapsed_prompt, sum_leadScript] at first
            rw [elapsed_prompt, sum_delayScript] at executed
            unfold InTime
            omega
          · exact induction others stillWaiting remaining other later

/-- In time or not, the lines go where the calls take them. -/
theorem port_of_performs {clock : Clock} {writes : List (Write × Nat)}
    {inputs : List (Act × Nat)}
    (performs : Performs clock (script pins writes) inputs) :
    ((Panel.machine pins execution undriven).exec panel inputs).port =
      writeAll pins (writes.map Prod.fst) panel.port := by
  rw [← perform_script]
  generalize script pins writes = acts at performs
  induction performs generalizing panel with
  | nil => rfl
  | @cons act input _ _ taken _ induction =>
      have moves : ((Panel.machine pins execution undriven).step panel
          input).port = act.perform panel.port := by
        rw [← taken.1]
        simp only [Panel.machine]
        split <;> rfl
      rw [Machine.exec_cons, induction, moves, List.foldl_cons]

end Pulsed

/-- The calls that take no raw byte. -/
def Call.Plain : Call → Prop
  | .writeByte _ _ => False
  | .writeCmd _ => False
  | _ => True

/-- Characters, and the addresses of both memories. -/
def Ordinary (write : Write) : Prop :=
  write.mode = .character ∨ setCgramAddrCmd ≤ write.byte

section Plain

variable {config : Config}

theorem Ordinary.fourBit {write : Write} (ordinary : Ordinary write) :
    ¬SelectsEightBit write := by
  rcases ordinary with character | address
  · exact not_selectsEightBit_of_character character
  · exact not_selectsEightBit_of_address address

theorem Ordinary.of {write : Write} (ordinary : Ordinary write)
    (execution : Execution) : execution.of write = execution.ordinary := by
  apply if_neg
  rintro ⟨instruction, -, early⟩
  rcases ordinary with character | address
  · rw [instruction] at character
    exact Mode.noConfusion character
  · exact absurd (UInt8.lt_of_le_of_lt address early) (by decide)

theorem ordinary_address {command : UInt8} (high : setCgramAddrCmd ≤ command)
    (address : UInt8) : Ordinary (writeCmd (command ||| address)) :=
  Or.inr (UInt8.le_trans high
    (UInt8.le_iff_toNat_le.mpr (command_le command address)))

theorem ordinary_writeString (string : List UInt8) :
    ∀ write ∈ writeString string, Ordinary write := by
  intro write member
  obtain ⟨character, -, rfl⟩ := List.mem_map.mp member
  exact Or.inl rfl

theorem ordinary_loadCustomGlyph (glyph : Vector UInt8 8) (cgramAddr : Nat) :
    ∀ write ∈ loadCustomGlyph glyph cgramAddr, Ordinary write := by
  intro write member
  rcases List.mem_cons.mp member with rfl | character
  · exact ordinary_address (by decide) _
  · exact ordinary_writeString _ write character

theorem ordinary_writeInteger (number : Int32) (requiredLength : UInt8) :
    ∀ write ∈ writeInteger number requiredLength, Ordinary write := by
  intro write member
  rcases List.mem_append.mp member with prepended | digits
  · rcases List.mem_append.mp prepended with sign | zeros
    · split at sign
      · exact Or.inl (congrArg Write.mode (List.mem_singleton.mp sign))
      · exact absurd sign List.not_mem_nil
    · exact Or.inl (congrArg Write.mode (List.eq_of_mem_replicate zeros))
  · exact ordinary_writeString _ write digits

/-- Everything is ordinary but the clearing of the screen, which is followed by
its delay. -/
theorem delayed_plain {call : Call} (plain : call.Plain) :
    ∀ write ∈ call.delayed config,
      Ordinary write.1 ∨ write = (writeCmd clearDisplayCmd, 1000) := by
  have undelayed {writes : List Write}
      (ordinary : ∀ write ∈ writes, Ordinary write) :
      ∀ write ∈ writes.map (·, 0),
        Ordinary write.1 ∨ write = (writeCmd clearDisplayCmd, 1000) := by
    intro write member
    obtain ⟨written, listed, rfl⟩ := List.mem_map.mp member
    exact Or.inl (ordinary written listed)
  cases call with
  | writeByte byte mode => exact plain.elim
  | writeCmd command => exact plain.elim
  | writeChar character =>
      exact undelayed (ordinary_writeString [character])
  | clear =>
      intro write member
      rw [Call.delayed, clear_eq] at member
      rcases List.mem_cons.mp member with rfl | homed
      · exact Or.inr rfl
      · rw [List.map_cons, List.map_nil, List.mem_singleton] at homed
        rw [homed]
        exact Or.inl (Or.inr (by decide))
  | gotoxy x y =>
      apply undelayed
      intro write member
      rw [Call.writes, gotoxy, List.mem_singleton] at member
      rw [member]
      exact ordinary_address (by decide) _
  | writeInteger number requiredLength =>
      exact undelayed (ordinary_writeInteger number requiredLength)
  | writeString string => exact undelayed (ordinary_writeString string)
  | loadCustomGlyph glyph cgramAddr =>
      exact undelayed (ordinary_loadCustomGlyph glyph cgramAddr)
  | loadCustomGlyphs glyphs =>
      apply undelayed
      intro write member
      obtain ⟨⟨glyph, index⟩, -, loads⟩ := List.mem_flatMap.mp member
      exact ordinary_loadCustomGlyph glyph index write loads

theorem delayed_fourBit {calls : List Call}
    (plain : ∀ call ∈ calls, call.Plain) :
    ∀ write ∈ calls.flatMap (Call.delayed config),
      ¬SelectsEightBit write.1 := by
  intro write member
  obtain ⟨call, listed, written⟩ := List.mem_flatMap.mp member
  rcases delayed_plain (plain call listed) write written with
    ordinary | rfl
  · exact ordinary.fourBit
  · decide

theorem delayed_inTime {clock : Clock} {execution : Execution}
    (ordinary : execution.ordinary ≤ gap clock)
    (clearing : execution.clearing ≤ clock.ticksPerUs * 1000 + gap clock)
    {calls : List Call} (plain : ∀ call ∈ calls, call.Plain) :
    ∀ write ∈ calls.flatMap (Call.delayed config),
      InTime clock execution write := by
  intro write member
  obtain ⟨call, listed, written⟩ := List.mem_flatMap.mp member
  rcases delayed_plain (plain call listed) write written with
    usual | rfl
  · unfold InTime
    rw [usual.of]
    exact Nat.le_trans ordinary (Nat.le_add_left _ _)
  · exact clearing

theorem delayed_writes (config : Config) (calls : List Call) :
    (calls.flatMap (Call.delayed config)).map Prod.fst =
      calls.flatMap (Call.writes config) := by
  rw [List.map_flatMap]
  simp only [Call.delayed_writes]

/-- The display is never busy when it is written to, whatever is written and
however the delays turn out, just when it executes a byte within the time that
the driver takes to present the next, and clears its memory within a
millisecond more. -/
theorem calls_inTime_iff (valid : config.Valid) (clock : Clock)
    (execution : Execution) (undriven : Nibble) {panel : Panel}
    (waiting : panel.Waiting config.pins) (free : panel.freeAt ≤ panel.now) :
    (∀ calls : List Call, (∀ call ∈ calls, call.Plain) →
        ∀ inputs, Performs clock
            (script config.pins (calls.flatMap (Call.delayed config))) inputs →
          (Panel.machine config.pins execution undriven).trace panel inputs =
            arrivals (calls.flatMap (Call.writes config))) ↔
      execution.ordinary ≤ gap clock ∧
        execution.clearing ≤ clock.ticksPerUs * 1000 + gap clock := by
  constructor
  · intro always
    have needed {calls : List Call} (plain : ∀ call ∈ calls, call.Plain) :
        ∀ write ∈ (calls.flatMap (Call.delayed config)).dropLast,
          InTime clock execution write := by
      apply inTime_of_prompt valid.pins (delayed_fourBit plain) waiting
      intro arrival member
      rw [always calls plain _ (performs_prompt clock _)] at member
      obtain ⟨pulse, -, rfl⟩ := List.mem_map.mp member
      rfl
    have twice := @needed [.writeString [65, 65]] (by simp [Call.Plain])
      (writeChar 65, 0) List.mem_cons_self
    have cleared := @needed [.clear] (by simp [Call.Plain])
      (writeCmd clearDisplayCmd, 1000) List.mem_cons_self
    exact ⟨by simpa [InTime, Execution.of, writeChar] using twice, cleared⟩
  · rintro ⟨ordinary, clearing⟩ calls plain inputs performs
    rw [← delayed_writes]
    exact trace_of_inTime valid.pins (delayed_fourBit plain)
      (fun write member => delayed_inTime ordinary clearing plain write
        (List.dropLast_subset _ member))
      waiting (Nat.le_trans free (Nat.le_add_right _ _)) performs

/-- With 32 ticks to the microsecond and accesses of 200. -/
theorem calls_inTime_iff_slow :
    gap ⟨32, 200, 8⟩ = 1432 ∧
      ∀ calls : List Call, (∀ call ∈ calls, call.Plain) →
        ∀ inputs, Performs ⟨32, 200, 8⟩
            (script Config.configured.pins
              (calls.flatMap (Call.delayed .configured))) inputs →
          (Panel.machine Config.configured.pins ⟨1184, 32000⟩ 0).trace
              ⟨⟨0, 0, 0, fun _ => .low, 0, []⟩, 0, .expecting, 0⟩ inputs =
            arrivals (calls.flatMap (Call.writes .configured)) :=
  ⟨rfl, (calls_inTime_iff Config.configured_valid ⟨32, 200, 8⟩ ⟨1184, 32000⟩ 0
    ⟨rfl, by decide⟩ (Nat.le_refl 0)).mpr ⟨by decide, by decide⟩⟩

end Plain

end HD44780

end QuarkMeteoStation
