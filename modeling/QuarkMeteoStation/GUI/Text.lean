import QuarkMeteoStation.GUI
import QuarkMeteoStation.HD44780.Text

namespace QuarkMeteoStation

open Library
open Library.Decimal

/-! The characters of the four fields. -/

namespace GUI

open HD44780

/-- The two halves of a number of hundredths, as C divides it. -/
def hundredthsText (hundredths : Int) : List UInt8 :=
  integerText (hundredths.tdiv 100) 0 ++ 46 ::
    integerText (hundredths.tmod 100) 2

def signText : DS18B20Sign → List UInt8
  | .positive => [32]
  | .negative => [45]

def outdoorNumeral (meas : DS18B20Meas) : List UInt8 :=
  signText meas.sign ++ integerText meas.integer.toNat 0 ++ 46 ::
    integerText meas.fraction.toNat 2

theorem writeString_append (first second : List UInt8) :
    writeString (first ++ second) = writeString first ++ writeString second :=
  List.map_append

theorem tdiv_tmod_of_neg {number : Int} (negative : number < 0) :
    number.tdiv 100 = -(-number / 100) ∧ number.tmod 100 = -(-number % 100) := by
  have nonnegative : 0 ≤ -number := by omega
  constructor
  · rw [← Int.tdiv_eq_ediv_of_nonneg nonnegative, Int.neg_tdiv, Int.neg_neg]
  · rw [← Int.tmod_eq_emod_of_nonneg nonnegative, Int.neg_tmod, Int.neg_neg]

theorem tdiv_tmod_of_nonneg {number : Int} (nonnegative : 0 ≤ number) :
    number.tdiv 100 = number / 100 ∧ number.tmod 100 = number % 100 :=
  ⟨Int.tdiv_eq_ediv_of_nonneg nonnegative,
    Int.tmod_eq_emod_of_nonneg nonnegative⟩

theorem toInt_div_hundred (number : Int32) :
    (number / 100).toInt = number.toInt.tdiv 100 := by
  have lower := number.le_toInt
  have upper := number.toInt_lt
  rw [Int32.toInt_div, show (100 : Int32).toInt = 100 from rfl]
  by_cases negative : number.toInt < 0
  · have quotient := (tdiv_tmod_of_neg negative).1
    apply Int.bmod_eq_of_le <;> omega
  · have quotient := (tdiv_tmod_of_nonneg (Int.not_lt.mp negative)).1
    apply Int.bmod_eq_of_le <;> omega

theorem toInt_mod_hundred (number : Int32) :
    (number % 100).toInt = number.toInt.tmod 100 := by
  rw [Int32.toInt_mod]
  rfl

theorem toInt_toInt32 {number : UInt32} (small : number.toNat < 2 ^ 31) :
    number.toInt32.toInt = number.toNat := by
  have signed : number.toInt32.toInt =
      if 2 * number.toNat < 2 ^ 32 then (number.toNat : Int)
      else number.toNat - 2 ^ 32 :=
    BitVec.toInt_eq_toNat_cond number.toBitVec
  rw [signed, if_pos (by omega)]

theorem temperatureText_eq (temperature : Int32) :
    temperatureText temperature =
      writeString (hundredthsText temperature.toInt ++ ascii "C ") := by
  rw [temperatureText, writeInteger_eq _ (by decide),
    writeInteger_eq _ (by decide), toInt_div_hundred, toInt_mod_hundred]
  simp [hundredthsText, writeString]

theorem pressureText_eq (pressure : UInt32) :
    pressureText pressure =
      writeString (hundredthsText pressure.toNat ++ ascii "hPa ") := by
  have bound := pressure.toNat_lt
  have whole : (pressure / 100).toNat = pressure.toNat / 100 := by
    simp [UInt32.toNat_div]
  have rest : (pressure % 100).toNat = pressure.toNat % 100 := by
    simp [UInt32.toNat_mod]
  rw [pressureText, writeInteger_eq _ (by decide),
    writeInteger_eq _ (by decide), toInt_toInt32 (by omega),
    toInt_toInt32 (by omega), whole, rest]
  simp [hundredthsText, writeString, Int.tdiv_eq_ediv_of_nonneg,
    Int.tmod_eq_emod_of_nonneg]

theorem toInt_toInt32_byte (byte : UInt8) :
    byte.toUInt32.toInt32.toInt = byte.toNat := by
  have bound := byte.toNat_lt
  rw [toInt_toInt32 (by rw [UInt8.toNat_toUInt32]; omega),
    UInt8.toNat_toUInt32]

theorem outdoorText_eq (meas : DS18B20Meas) :
    outdoorText meas = writeString (outdoorNumeral meas ++ ascii "C ") := by
  rw [outdoorText, writeInteger_eq _ (by decide),
    writeInteger_eq _ (by decide), toInt_toInt32_byte, toInt_toInt32_byte]
  cases sign : meas.sign <;>
    simp [outdoorNumeral, signText, writeString, sign]

theorem humidityText_eq (humidity : UInt8) :
    humidityText humidity =
      writeString (integerText humidity.toNat 0 ++ ascii "%") := by
  rw [humidityText, writeInteger_eq _ (by decide), toInt_toInt32_byte,
    writeString_append]
  rfl

theorem hundredthsText_of_nonneg (number : Nat) :
    hundredthsText number = numeral (number / 100) ++
      46 :: integerText (number % 100 : Nat) 2 := by
  have halves := @tdiv_tmod_of_nonneg number (by omega)
  rw [hundredthsText, halves.1, halves.2, ← integerText_zero_padded]
  rfl

theorem hundredthsText_of_neg {number : Nat} (positive : 0 < number) :
    hundredthsText (-(number : Int)) =
      integerText (-(number / 100 : Nat)) 0 ++
        46 :: integerText (-(number % 100 : Nat)) 2 := by
  have halves := @tdiv_tmod_of_neg (-(number : Int)) (by omega)
  rw [hundredthsText, halves.1, halves.2, Int.neg_neg]
  rfl

end GUI

end QuarkMeteoStation
