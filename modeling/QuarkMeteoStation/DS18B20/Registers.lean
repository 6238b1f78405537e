import Mathlib.Data.Nat.Bitwise
import QuarkMeteoStation.Average.Outdoor
import QuarkMeteoStation.DS18B20

namespace QuarkMeteoStation

open Library

/-! Temperature registers on their way from the bus to the accumulated sum. -/

namespace DS18B20

def reading (sign : DS18B20Sign) (sixteenths : Nat) : DS18B20Meas where
  sign := sign
  integer := UInt8.ofNat (sixteenths / 16)
  fraction := UInt8.ofNat (sixteenths % 16 * 625 / 100)

def registerSign (register : Int) : DS18B20Sign :=
  if register < 0 then .negative else .positive

def trueReading (register : Int) : DS18B20Meas :=
  reading (registerSign register) register.natAbs

/-- The register's value in hundredths of a degree, truncated toward zero. -/
def trueHundredths (register : Int) : Int :=
  register.sign * (register.natAbs * 25 / 4 : Nat)

/-- Negating the low byte of the register carries into the high byte. -/
def Carries (register : Int) : Prop :=
  register < 0 ∧ (256 : Int) ∣ register

instance (register : Int) : Decidable (Carries register) :=
  inferInstanceAs (Decidable (_ ∧ _))

def word (register : Int) : Nat :=
  (register % 2 ^ 16).toNat

/-- One execution of `DS18B20_get_temperature` while the slave transmits a
temperature register: the read slots follow the presence sample. -/
structure Readout where
  port : Port
  register : Int
  inRange : -2047 ≤ register ∧ register ≤ 2047
  transmitted : ∀ slot < 16,
    port.levels (port.reads + 1 + slot) = Onewire.bitLevel (word register) slot

def Readout.meas (readout : Readout) (config : Onewire.Config) : DS18B20Meas :=
  (getTemperature config readout.port).1

def commanded (config : Onewire.Config) (port : Port) : Port :=
  Onewire.writeByte config Command.readScratchpad.code
    (Onewire.writeByte config Command.skipRom.code
      (Onewire.reset config port).2)

theorem getTemperature_eq (config : Onewire.Config) (port : Port) :
    (getTemperature config port).1 =
      decode (Onewire.readByte config (commanded config port)).1
        (Onewire.readByte config
          (Onewire.readByte config (commanded config port)).2).1 := by
  simp only [getTemperature, readScratchpad, commanded]

theorem commanded_frame (config : Onewire.Config) (port : Port) :
    (commanded config port).levels = port.levels ∧
      (commanded config port).reads = port.reads + 1 := by
  simp [commanded, Onewire.writeByte, Onewire.writeByteLoop_reads,
    Onewire.reset, Port.readPin]

theorem getTemperature_of_transmitted (config : Onewire.Config) (port : Port)
    (value : Nat)
    (transmitted : ∀ slot < 16,
      port.levels (port.reads + 1 + slot) = Onewire.bitLevel value slot) :
    (getTemperature config port).1 =
      decode (UInt8.ofNat value) (UInt8.ofNat (value / 256)) := by
  obtain ⟨levels, reads⟩ := commanded_frame config port
  obtain ⟨lsb, lsbLevels, lsbReads⟩ :=
    Onewire.readByte_spec config value (commanded config port) (by
      intro slot bound
      rw [levels, reads]
      exact transmitted slot (by omega))
  obtain ⟨msb, -, -⟩ :=
    Onewire.readByte_spec config (value / 2 ^ 8)
      (Onewire.readByte config (commanded config port)).2 (by
        intro slot bound
        have later := transmitted (slot + 8) (by omega)
        rw [lsbLevels, lsbReads, levels, reads]
        rw [show port.reads + 1 + 8 + slot = port.reads + 1 + (slot + 8) by
          omega, later]
        simp only [Onewire.bitLevel, Nat.testBit_div_two_pow])
  have lsbEq : (Onewire.readByte config (commanded config port)).1 =
      UInt8.ofNat value := by
    apply UInt8.toNat_inj.mp
    rw [lsb, UInt8.toNat_ofNat']
  have msbEq : (Onewire.readByte config
      (Onewire.readByte config (commanded config port)).2).1 =
        UInt8.ofNat (value / 256) := by
    apply UInt8.toNat_inj.mp
    rw [msb, UInt8.toNat_ofNat', show (2 : Nat) ^ 8 = 256 by rfl]
  rw [getTemperature_eq, lsbEq, msbEq]

private theorem negative_byte_iff (byte : UInt8) :
    byte &&& 0x80 ≠ 0 ↔ 128 ≤ byte.toNat := by
  have bound := byte.toNat_lt
  have masked : (byte &&& 0x80).toNat =
      (byte.toNat.testBit 7).toNat * 2 ^ 7 := by
    rw [UInt8.toNat_and]
    exact Nat.and_two_pow byte.toNat 7
  rw [← UInt8.toNat_inj.ne, masked, Nat.toNat_testBit]
  simp only [UInt8.toNat_zero]
  omega

private theorem decode_bytes (high low : Nat) (highBound : high < 8)
    (lowBound : low < 256) :
    ((high <<< 4 ||| low >>> 4) &&& 0x7F) = (high * 256 + low) / 16 ∧
      (low &&& 0x0F) = (high * 256 + low) % 16 := by
  have nibble : low >>> 4 < 2 ^ 4 := by
    rw [Nat.shiftRight_eq_div_pow]
    omega
  constructor
  · rw [← Nat.shiftLeft_add_eq_or_of_lt nibble,
      show (0x7F : Nat) = 2 ^ 7 - 1 by rfl, Nat.and_two_pow_sub_one_eq_mod,
      Nat.shiftLeft_eq, Nat.shiftRight_eq_div_pow]
    omega
  · rw [show (0x0F : Nat) = 2 ^ 4 - 1 by rfl, Nat.and_two_pow_sub_one_eq_mod]
    omega

/-- What the bytewise negation makes of a register: the carry out of a zero low
byte is lost, and with it 256 sixteenths. -/
def decodedMagnitude (register : Int) : Nat :=
  if Carries register then register.natAbs - 256 else register.natAbs

section Word

private theorem toNat_lsb (register : Int) :
    (UInt8.ofNat (word register)).toNat = word register % 256 := by
  rw [UInt8.toNat_ofNat']

private theorem toNat_msb (register : Int) :
    (UInt8.ofNat (word register / 256)).toNat = word register / 256 := by
  rw [UInt8.toNat_ofNat', word]
  omega

variable {register : Int} (inRange : -2047 ≤ register ∧ register ≤ 2047)

include inRange

theorem decode_word_of_neg (negative : register < 0) :
    decode (UInt8.ofNat (word register)) (UInt8.ofNat (word register / 256)) =
      reading .negative (decodedMagnitude register) := by
  have wordEq : word register = 65536 - register.natAbs := by
    rw [word]
    omega
  have signed : UInt8.ofNat (word register / 256) &&& 0x80 ≠ 0 := by
    rw [negative_byte_iff, toNat_msb]
    omega
  have high : (~~~UInt8.ofNat (word register / 256)).toNat =
      255 - word register / 256 := by
    rw [UInt8.toNat_not, toNat_msb]
    rfl
  have low : (~~~UInt8.ofNat (word register) + 1).toNat =
      (256 - word register % 256) % 256 := by
    rw [UInt8.toNat_add, UInt8.toNat_not, toNat_lsb]
    simp only [UInt8.size, UInt8.toNat_one]
    omega
  obtain ⟨integer, fraction⟩ := decode_bytes
    (255 - word register / 256) ((256 - word register % 256) % 256)
    (by omega) (by omega)
  have magnitude : (255 - word register / 256) * 256 +
      (256 - word register % 256) % 256 = decodedMagnitude register := by
    by_cases carries : Carries register
    · rw [decodedMagnitude, if_pos carries]
      have divides := carries.2
      omega
    · rw [decodedMagnitude, if_neg carries]
      have indivisible : ¬(256 : Int) ∣ register :=
        fun divides => carries ⟨negative, divides⟩
      omega
  rw [magnitude] at integer fraction
  simp only [decode, reading, if_pos signed, if_true, high, low, integer,
    fraction]

theorem decode_word_of_nonneg (nonnegative : ¬register < 0) :
    decode (UInt8.ofNat (word register)) (UInt8.ofNat (word register / 256)) =
      reading .positive (decodedMagnitude register) := by
  have wordEq : word register = register.natAbs := by
    rw [word]
    omega
  have unsigned : ¬(UInt8.ofNat (word register / 256) &&& 0x80 ≠ 0) := by
    rw [negative_byte_iff, toNat_msb]
    omega
  obtain ⟨integer, fraction⟩ := decode_bytes (word register / 256)
    (word register % 256) (by omega) (by omega)
  have magnitude : word register / 256 * 256 + word register % 256 =
      decodedMagnitude register := by
    rw [decodedMagnitude, if_neg fun carries => nonnegative carries.1]
    omega
  rw [magnitude] at integer fraction
  simp only [decode, reading, if_neg unsigned, reduceCtorEq, if_false,
    toNat_lsb, toNat_msb, integer, fraction]

theorem decode_word :
    decode (UInt8.ofNat (word register)) (UInt8.ofNat (word register / 256)) =
      reading (registerSign register) (decodedMagnitude register) := by
  unfold registerSign
  split
  next negative => exact decode_word_of_neg inRange negative
  next nonnegative => exact decode_word_of_nonneg inRange nonnegative

end Word

theorem Readout.meas_eq (readout : Readout) (config : Onewire.Config) :
    readout.meas config = reading (registerSign readout.register)
      (decodedMagnitude readout.register) := by
  rw [Readout.meas, getTemperature_of_transmitted config readout.port
    (word readout.register) readout.transmitted,
    decode_word readout.inRange]

theorem hundredths_reading (sign : DS18B20Sign) (sixteenths : Nat)
    (bound : sixteenths ≤ 2047) :
    (reading sign sixteenths).hundredths =
      match sign with
      | .positive => ((sixteenths * 25 / 4 : Nat) : Int)
      | .negative => -((sixteenths * 25 / 4 : Nat) : Int) := by
  have integer : (UInt8.ofNat (sixteenths / 16)).toNat = sixteenths / 16 := by
    rw [UInt8.toNat_ofNat']
    omega
  have fraction : (UInt8.ofNat (sixteenths % 16 * 625 / 100)).toNat =
      sixteenths % 16 * 625 / 100 := by
    rw [UInt8.toNat_ofNat']
    omega
  cases sign <;>
    simp only [reading, DS18B20Meas.hundredths, integer, fraction] <;> omega

/-- A lost carry raises the reading by sixteen degrees; nothing else changes
it. -/
theorem Readout.hundredths_eq (readout : Readout) (config : Onewire.Config) :
    (readout.meas config).hundredths =
      trueHundredths readout.register +
        if Carries readout.register then 1600 else 0 := by
  have range := readout.inRange
  have bound : decodedMagnitude readout.register ≤ 2047 := by
    unfold decodedMagnitude
    split <;> omega
  rw [readout.meas_eq, hundredths_reading _ _ bound, trueHundredths]
  by_cases negative : readout.register < 0
  · rw [registerSign, if_pos negative, Int.sign_eq_neg_one_of_neg negative]
    by_cases carries : Carries readout.register
    · rw [decodedMagnitude, if_pos carries, if_pos carries]
      have divides := carries.2
      dsimp only
      omega
    · rw [decodedMagnitude, if_neg carries, if_neg carries]
      dsimp only
      omega
  · have kept : ¬Carries readout.register := fun carries => negative carries.1
    rw [registerSign, if_neg negative, decodedMagnitude, if_neg kept,
      if_neg kept]
    rcases Int.lt_trichotomy readout.register 0 with below | zero | above
    · exact absurd below negative
    · simp [zero]
    · rw [Int.sign_eq_one_of_pos above]
      dsimp only
      omega

theorem Readout.meas_of_kept {readout : Readout}
    (kept : ¬Carries readout.register) (config : Onewire.Config) :
    readout.meas config = trueReading readout.register := by
  rw [readout.meas_eq, decodedMagnitude, if_neg kept, trueReading]

def averageReadouts (config : Onewire.Config) (readouts : List Readout)
    (averages : Averages) : Averages :=
  readouts.foldl
    (fun averages readout =>
      averageUpdateDS18B20 (readout.meas config) averages)
    (averageReset averages)

theorem averageReadouts_exact (config : Onewire.Config)
    (readouts : List Readout) (averages : Averages)
    (few : readouts.length ≤ 65535) :
    (averageReadouts config readouts averages).ds18b20Avg.Exact
      (readouts.map fun readout => readout.meas config) := by
  have accounts := averageDS18B20_accounts
    (readouts.map fun readout => readout.meas config) averages
  rw [averageDS18B20, List.foldl_map] at accounts
  exact accounts.ds18b20.exact (by rw [List.length_map]; omega)

theorem sum_hundredths_eq (config : Onewire.Config)
    (readouts : List Readout) :
    (readouts.map fun readout => (readout.meas config).hundredths).sum =
      (readouts.map fun readout => trueHundredths readout.register).sum +
        1600 * (readouts.filter fun readout =>
          decide (Carries readout.register)).length := by
  induction readouts with
  | nil => rfl
  | cons readout rest induction =>
      simp only [List.map_cons, List.sum_cons, List.filter_cons]
      rw [induction, readout.hundredths_eq]
      by_cases carries : Carries readout.register
      · rw [if_pos carries, if_pos (decide_eq_true carries), List.length_cons]
        omega
      · rw [if_neg carries, if_neg (by simpa using carries)]
        omega

/-- The accumulator holds the registers' values, and every reading is its
register's. -/
structure Accumulated (config : Onewire.Config) (readouts : List Readout)
    (averages : Averages) : Prop where
  tempSum : averages.ds18b20Avg.tempSum.toInt =
    (readouts.map fun readout => trueHundredths readout.register).sum
  measNum : averages.ds18b20Avg.measNum.toNat = readouts.length
  readings : ∀ readout ∈ readouts,
    readout.meas config = trueReading readout.register

theorem not_carries_of_tempSum {config : Onewire.Config}
    {readouts : List Readout} {averages : Averages}
    (few : readouts.length ≤ 65535)
    (tempSum :
      (averageReadouts config readouts averages).ds18b20Avg.tempSum.toInt =
        (readouts.map fun readout => trueHundredths readout.register).sum) :
    ∀ readout ∈ readouts, ¬Carries readout.register := by
  have exact := averageReadouts_exact config readouts averages few
  have excess := sum_hundredths_eq config readouts
  have accumulated := exact.tempSum
  rw [List.map_map] at accumulated
  simp only [Function.comp_def] at accumulated
  have none : (readouts.filter fun readout =>
      decide (Carries readout.register)).length = 0 := by omega
  simpa using none

/-- Temperature registers are accumulated with their true value exactly when
none of them is negative with a zero low byte. -/
theorem registers_accumulated_iff (config : Onewire.Config)
    (readouts : List Readout) (averages : Averages)
    (few : readouts.length ≤ 65535) :
    Accumulated config readouts (averageReadouts config readouts averages) ↔
      ∀ readout ∈ readouts, ¬Carries readout.register := by
  constructor
  · intro accumulated
    exact not_carries_of_tempSum few accumulated.tempSum
  · intro kept
    have exact := averageReadouts_exact config readouts averages few
    have readings : ∀ readout ∈ readouts,
        readout.meas config = trueReading readout.register :=
      fun readout member => Readout.meas_of_kept (kept readout member) config
    have none : readouts.filter (fun readout =>
        decide (Carries readout.register)) = [] := by
      simpa using kept
    refine ⟨?_, ?_, readings⟩
    · rw [exact.tempSum, List.map_map]
      have excess := sum_hundredths_eq config readouts
      rw [none, List.length_nil] at excess
      simpa [Function.comp_def] using excess
    · rw [exact.measNum, List.length_map]

def transmission (register : Int)
    (inRange : -2047 ≤ register ∧ register ≤ 2047) : Readout where
  port :=
    { configDirection := 0
      direction := 0
      latch := 0
      levels := fun read =>
        if read = 0 then .low
        else Onewire.bitLevel (word register) (read - 1)
      reads := 0
      accesses := [] }
  register := register
  inRange := inRange
  transmitted := by
    intro slot _
    simp only [Nat.zero_add, Nat.add_comm 1 slot, Nat.add_one_ne_zero, if_false,
      Nat.add_sub_cancel]

theorem registers_accumulated_iff_thaw :
    let readouts :=
      [transmission (-8) (by decide), transmission 255 (by decide)]
    Accumulated ⟨14⟩ readouts
      (averageReadouts ⟨14⟩ readouts Averages.cleared) :=
  (registers_accumulated_iff ⟨14⟩
    [transmission (-8) (by decide), transmission 255 (by decide)]
    Averages.cleared (by decide)).mpr (by decide)

theorem registers_misaccumulated_at_carry :
    ¬∀ (config : Onewire.Config) (readouts : List Readout)
        (averages : Averages), readouts.length ≤ 65535 →
        Accumulated config readouts
          (averageReadouts config readouts averages) := by
  intro claimed
  have accumulated := claimed ⟨14⟩ [transmission (-256) (by decide)]
    Averages.cleared (by decide)
  have kept := not_carries_of_tempSum (by decide) accumulated.tempSum
    (transmission (-256) (by decide)) (by simp)
  exact kept (by decide)

end DS18B20

end QuarkMeteoStation
