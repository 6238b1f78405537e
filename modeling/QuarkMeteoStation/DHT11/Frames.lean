import Mathlib.Algebra.Order.Ring.Nat
import Mathlib.Tactic.Ring
import QuarkMeteoStation.DHT11

namespace QuarkMeteoStation

/-! A frame on the line: forty slots of one sample each, where a high slot is
followed by further reads that decide nothing. -/

namespace DHT11

section Slots

variable (levels : Nat → QmGpioState)

/-- The reads the self-correcting wait makes after a sample: while the line is
high, but no more than the timeout. -/
def furtherReads : Nat → Nat → Nat
  | 0, _ => 0
  | timeout + 1, position =>
      if levels position = .high then
        furtherReads timeout (position + 1) + 1
      else 0

def slotStart (first : Nat) : Nat → Nat
  | 0 => first
  | slot + 1 =>
      let position := slotStart first slot
      position + furtherReads levels synchroLoopTimeout.toNat position + 1

def sample (first slot : Nat) : QmGpioState :=
  levels (slotStart levels first slot)

theorem furtherReads_le (timeout position : Nat) :
    furtherReads levels timeout position ≤ timeout := by
  induction timeout generalizing position with
  | zero => exact Nat.le_refl 0
  | succ timeout induction =>
      rw [furtherReads]
      split
      · exact Nat.succ_le_succ (induction (position + 1))
      · exact Nat.zero_le _

theorem slotStart_le (first slot : Nat) :
    slotStart levels first slot ≤ first + slot * 1001 := by
  induction slot with
  | zero => exact Nat.le_refl first
  | succ slot induction =>
      have bound := furtherReads_le levels synchroLoopTimeout.toNat
        (slotStart levels first slot)
      have timeout : synchroLoopTimeout.toNat = 1000 := rfl
      rw [slotStart]
      omega

end Slots

def bit : QmGpioState → Nat
  | .low => 0
  | .high => 1

/-- The number a run of samples spells, first sample most significant. -/
def spelled (samples : Nat → QmGpioState) : Nat → Nat
  | 0 => 0
  | count + 1 => 2 * spelled samples count + bit (samples count)

theorem bit_lt (level : QmGpioState) : bit level < 2 := by
  cases level <;> decide

theorem spelled_lt (samples : Nat → QmGpioState) (count : Nat) :
    spelled samples count < 2 ^ count := by
  induction count with
  | zero => exact Nat.one_pos
  | succ count induction =>
      have last := bit_lt (samples count)
      rw [spelled, Nat.pow_succ]
      omega

theorem spelled_add (samples : Nat → QmGpioState) (before after : Nat) :
    spelled samples (before + after) =
      spelled samples before * 2 ^ after +
        spelled (fun slot => samples (before + slot)) after := by
  induction after with
  | zero => simp [spelled]
  | succ after induction =>
      rw [← Nat.add_assoc, spelled, induction, spelled]
      ring

/-- The byte at an index of the transmission, counted from the first one. -/
def receivedByte (samples : Nat → QmGpioState) (index : Nat) : UInt8 :=
  UInt8.ofNat (spelled (fun slot => samples (8 * index + slot)) 8)

def Checks (bytes : Nat → UInt8) : Prop :=
  ((bytes 0).toNat + (bytes 1).toNat + (bytes 2).toNat +
    (bytes 3).toNat) % 256 = (bytes 4).toNat

instance (bytes : Nat → UInt8) : Decidable (Checks bytes) :=
  inferInstanceAs (Decidable (_ = _))

/-- What a frame of five bytes means, whatever was received before it. -/
def decode (bytes : Nat → UInt8) : DHT11Meas :=
  if Checks bytes then { humidity := bytes 0, temperature := bytes 2 }
  else DHT11Error.checksumError.measurement

theorem toNat_receivedByte (samples : Nat → QmGpioState) (index : Nat) :
    (receivedByte samples index).toNat =
      spelled (fun slot => samples (8 * index + slot)) 8 := by
  have bound := spelled_lt (fun slot => samples (8 * index + slot)) 8
  rw [receivedByte, UInt8.toNat_ofNat']
  exact Nat.mod_eq_of_lt bound

theorem spelled_frame (samples : Nat → QmGpioState) :
    spelled samples frameLength =
      (receivedByte samples 0).toNat * 256 ^ 4 +
        (receivedByte samples 1).toNat * 256 ^ 3 +
        (receivedByte samples 2).toNat * 256 ^ 2 +
        (receivedByte samples 3).toNat * 256 +
        (receivedByte samples 4).toNat := by
  have total : frameLength = (((8 + 8) + 8) + 8) + 8 := rfl
  simp only [total, spelled_add samples, toNat_receivedByte, Nat.mul_zero,
    Nat.zero_add, Nat.mul_one]
  ring

section Reception

theorem synchroLoop_reads (timeout : Nat) (response : QmGpioState)
    (port : Port) (position : Nat) (next : port.reads = position + 1)
    (shown : response = port.levels position) :
    (synchroLoop timeout response port).reads =
        position + furtherReads port.levels timeout position + 1 ∧
      (synchroLoop timeout response port).levels = port.levels := by
  induction timeout generalizing response port position with
  | zero => exact ⟨next, rfl⟩
  | succ timeout induction =>
      by_cases high : response = .high
      · obtain ⟨reads, levels⟩ := induction (port.levels port.reads)
          port.readPin.2 (position + 1) (by rw [← next]; rfl)
          (by rw [← next]; rfl)
        rw [synchroLoop, if_pos high, furtherReads, if_pos (shown ▸ high)]
        refine ⟨?_, levels⟩
        simp only [Port.readPin] at reads ⊢
        rw [reads]
        omega
      · rw [synchroLoop, if_neg high, furtherReads, if_neg (shown ▸ high)]
        exact ⟨next, rfl⟩

theorem shift_in (rawData : UInt64) (level : QmGpioState) :
    (if level = .high then rawData <<< 1 ||| 0x01 else rawData <<< 1).toNat =
      (2 * rawData.toNat + bit level) % 2 ^ 64 := by
  have shifted : (rawData <<< 1).toNat = 2 * rawData.toNat % 2 ^ 64 := by
    rw [UInt64.toNat_shiftLeft, Nat.shiftLeft_eq, Nat.mul_comm]
    rfl
  cases level with
  | low => simpa [bit] using shifted
  | high =>
      have even : 2 * rawData.toNat % 2 ^ 64 =
          2 ^ 1 * (rawData.toNat % 2 ^ 63) := by omega
      have joined := Nat.two_pow_add_eq_or_of_lt (show 1 < 2 ^ 1 by decide)
        (rawData.toNat % 2 ^ 63)
      simp only [if_true, UInt64.toNat_or, shifted, bit]
      rw [even, show (0x01 : UInt64).toNat = 1 from rfl, ← joined]
      omega

def pushLevel (frame : DataFrame) (level : QmGpioState) : DataFrame :=
  ⟨if level = .high then frame.rawData <<< 1 ||| 0x01 else frame.rawData <<< 1⟩

def afterSlot (port : Port) : Port :=
  if port.levels port.reads = .high then
    synchroLoop synchroLoopTimeout.toNat (port.levels port.reads) port.readPin.2
  else port.readPin.2

theorem readBits_succ (remaining : Nat) (frame : DataFrame) (port : Port) :
    readBits (remaining + 1) frame port =
      readBits remaining (pushLevel frame (port.levels port.reads))
        (afterSlot port) := by
  rw [readBits, pushLevel, afterSlot]
  by_cases high : port.levels port.reads = .high
  · simp [Port.readPin, high]
  · simp [Port.readPin, high]

theorem afterSlot_reads (port : Port) :
    (afterSlot port).reads = port.reads +
        furtherReads port.levels synchroLoopTimeout.toNat port.reads + 1 ∧
      (afterSlot port).levels = port.levels := by
  rw [afterSlot]
  by_cases high : port.levels port.reads = .high
  · rw [if_pos high]
    exact synchroLoop_reads _ _ port.readPin.2 port.reads rfl rfl
  · have unread : furtherReads port.levels synchroLoopTimeout.toNat
        port.reads = 0 := by
      rw [show synchroLoopTimeout.toNat = 999 + 1 from rfl, furtherReads,
        if_neg high]
    rw [if_neg high, unread]
    exact ⟨rfl, rfl⟩

/-- After `done` slots the register holds its old content moved out by the bits
received so far. -/
theorem readBits_spec (first content : Nat) (remaining : Nat) :
    ∀ (done : Nat) (frame : DataFrame) (port : Port),
      port.reads = slotStart port.levels first done →
      frame.rawData.toNat =
        (content * 2 ^ done + spelled (sample port.levels first) done) % 2 ^ 64 →
      (readBits remaining frame port).1.rawData.toNat =
          (content * 2 ^ (done + remaining) +
            spelled (sample port.levels first) (done + remaining)) % 2 ^ 64 ∧
        (readBits remaining frame port).2.reads =
          slotStart port.levels first (done + remaining) := by
  induction remaining with
  | zero =>
      intro done frame port position register
      exact ⟨register, position⟩
  | succ remaining induction =>
      intro done frame port position register
      obtain ⟨reads, levels⟩ := afterSlot_reads port
      have level : port.levels port.reads = sample port.levels first done := by
        rw [position, sample]
      have doubled : content * 2 ^ (done + 1) = 2 * (content * 2 ^ done) := by
        ring
      have moved : (pushLevel frame (port.levels port.reads)).rawData.toNat =
          (content * 2 ^ (done + 1) +
            spelled (sample port.levels first) (done + 1)) % 2 ^ 64 := by
        rw [pushLevel, shift_in, register, level, spelled, doubled]
        omega
      have later := induction (done + 1)
        (pushLevel frame (port.levels port.reads)) (afterSlot port)
        (by rw [reads, levels, position, slotStart])
        (by rw [levels]; exact moved)
      rw [levels] at later
      rw [readBits_succ, show done + (remaining + 1) = done + 1 + remaining by
        omega]
      exact later

end Reception

/-- The register holds these bytes in the order of their reception. -/
structure DataFrame.Holds (frame : DataFrame) (bytes : Nat → UInt8) : Prop where
  humidityInteger : frame.humidityInteger = bytes 0
  humidityFraction : frame.humidityFraction = bytes 1
  temperatureInteger : frame.temperatureInteger = bytes 2
  temperatureFraction : frame.temperatureFraction = bytes 3
  checksum : frame.checksum = bytes 4

theorem holds_of_register {frame : DataFrame} {content : Nat}
    {samples : Nat → QmGpioState}
    (register : frame.rawData.toNat =
      (content * 2 ^ frameLength + spelled samples frameLength) % 2 ^ 64) :
    frame.Holds (receivedByte samples) := by
  have bytes := spelled_frame samples
  have bound0 := (receivedByte samples 0).toNat_lt
  have bound1 := (receivedByte samples 1).toNat_lt
  have bound2 := (receivedByte samples 2).toNat_lt
  have bound3 := (receivedByte samples 3).toNat_lt
  have bound4 := (receivedByte samples 4).toNat_lt
  rw [bytes, show frameLength = 40 from rfl] at register
  constructor <;>
    simp only [DataFrame.humidityInteger, DataFrame.humidityFraction,
      DataFrame.temperatureInteger, DataFrame.temperatureFraction,
      DataFrame.checksum, DataFrame.byte, ← UInt8.toNat_inj,
      UInt8.toNat_ofNat'] <;>
    omega

theorem DataFrame.Holds.valid_iff {frame : DataFrame} {bytes : Nat → UInt8}
    (holds : frame.Holds bytes) :
    validateChecksum frame = .valid ↔ Checks bytes := by
  simp only [validateChecksum, holds.humidityInteger, holds.humidityFraction,
    holds.temperatureInteger, holds.temperatureFraction, holds.checksum, Checks]
  split <;> simp_all

theorem spelled_congr {samples others : Nat → QmGpioState} {count : Nat}
    (same : ∀ slot < count, samples slot = others slot) :
    spelled samples count = spelled others count := by
  induction count with
  | zero => rfl
  | succ count induction =>
      rw [spelled, spelled, same count (Nat.lt_succ_self count),
        induction fun slot bound => same slot (Nat.lt_succ_of_lt bound)]

theorem decode_congr {samples others : Nat → QmGpioState}
    (same : ∀ slot < frameLength, samples slot = others slot) :
    decode (receivedByte samples) = decode (receivedByte others) := by
  have bytes : ∀ index < 5,
      receivedByte samples index = receivedByte others index := by
    intro index bound
    rw [receivedByte, receivedByte, spelled_congr]
    intro slot inByte
    apply same
    rw [show frameLength = 40 from rfl]
    omega
  apply if_congr
  · simp only [Checks, bytes 0 (by decide), bytes 1 (by decide),
      bytes 2 (by decide), bytes 3 (by decide), bytes 4 (by decide)]
  · rw [bytes 0 (by decide), bytes 2 (by decide)]
  · rfl

def listening (config : Config) (port : Port) : Port :=
  (pinSetDirection config .input (pinSetDirection config .output port)).readPin.2

theorem readDataFrame_present {config : Config} {port : Port}
    (present : port.levels port.reads = .low) (frame : DataFrame) :
    readDataFrame config frame port =
      (.present, readBits frameLength frame (listening config port)) := by
  have answered : reset config port = (.present, listening config port) := by
    simp [reset, listening, Port.readPin, pinSetDirection, present]
  rw [readDataFrame, answered]

theorem readDataFrame_absent {config : Config} {port : Port}
    (absent : port.levels port.reads ≠ .low) (frame : DataFrame) :
    readDataFrame config frame port =
      (.absent, frame, listening config port) := by
  have unanswered : reset config port = (.absent, listening config port) := by
    simp [reset, listening, Port.readPin, pinSetDirection, absent]
  rw [readDataFrame, unanswered]

section Measurement

variable {config : Config} {port : Port}

/-- A reception leaves the bytes of the line, and nothing of the register's old
content. -/
theorem readBits_holds (frame : DataFrame) :
    (readBits frameLength frame (listening config port)).1.Holds
        (receivedByte (sample port.levels (port.reads + 1))) ∧
      (readBits frameLength frame (listening config port)).2.reads =
        slotStart port.levels (port.reads + 1) frameLength := by
  have register : frame.rawData.toNat =
      (frame.rawData.toNat * 2 ^ 0 + 0) % 2 ^ 64 := by
    have bound := frame.rawData.toNat_lt
    omega
  obtain ⟨content, reads⟩ := readBits_spec (port.reads + 1)
    frame.rawData.toNat frameLength 0 frame (listening config port) rfl register
  rw [Nat.zero_add] at content reads
  exact ⟨holds_of_register content, reads⟩

theorem getMeasurement_absent (absent : port.levels port.reads ≠ .low)
    (frame : DataFrame) :
    getMeasurement config frame port =
      (DHT11Error.noSensorError.measurement, frame, listening config port) := by
  rw [getMeasurement, readDataFrame_absent absent]

theorem getMeasurement_present (present : port.levels port.reads = .low)
    (frame : DataFrame) :
    (getMeasurement config frame port).1 =
        decode (receivedByte (sample port.levels (port.reads + 1))) ∧
      (getMeasurement config frame port).2 =
        readBits frameLength frame (listening config port) := by
  obtain ⟨holds, -⟩ := @readBits_holds config port frame
  have checked := holds.valid_iff
  rw [getMeasurement, readDataFrame_present present]
  simp only [decode]
  by_cases checks : Checks (receivedByte (sample port.levels (port.reads + 1)))
  · rw [if_pos checks, checked.mpr checks]
    simp only [holds.humidityInteger, holds.temperatureInteger, and_self]
  · have invalid : validateChecksum
        (readBits frameLength frame (listening config port)).1 = .invalid := by
      cases outcome : validateChecksum
          (readBits frameLength frame (listening config port)).1 with
      | invalid => rfl
      | valid => exact absurd (checked.mp outcome) checks
    rw [if_neg checks, invalid]
    exact ⟨rfl, rfl⟩

end Measurement

/-- Reading the sensor ends after a bounded number of pin reads, and what it
returns is decided by the presence sample and the forty slot samples. -/
theorem getMeasurement_received (config : Config) (frame : DataFrame)
    (port : Port) :
    let result := getMeasurement config frame port
    (port.levels port.reads = .low →
        ∀ samples : Nat → QmGpioState,
          (∀ slot < frameLength, samples slot =
            sample port.levels (port.reads + 1) slot) →
          result.1 = decode (receivedByte samples)) ∧
      (port.levels port.reads = .high →
        result.1 = DHT11Error.noSensorError.measurement ∧
          result.2.1 = frame) ∧
      result.2.2.reads ≤ port.reads + (1 + 40 * 1001) := by
  intro result
  refine ⟨?_, ?_, ?_⟩
  · intro present samples same
    rw [decode_congr same]
    exact (getMeasurement_present present frame).1
  · intro high
    have absent : port.levels port.reads ≠ .low := by
      rw [high]
      decide
    simp only [result, getMeasurement_absent absent, and_self]
  · by_cases present : port.levels port.reads = .low
    · have bound := slotStart_le port.levels (port.reads + 1) frameLength
      rw [show frameLength = 40 from rfl] at bound
      simp only [result, (getMeasurement_present present frame).2,
        (@readBits_holds config port frame).2]
      exact Nat.le_trans bound (by omega)
    · simp only [result, getMeasurement_absent present]
      exact Nat.add_le_add_left (by decide) _

end DHT11

end QuarkMeteoStation
