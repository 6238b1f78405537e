import QuarkMeteoStation.GUI.Text
import QuarkMeteoStation.HD44780.Display

namespace QuarkMeteoStation

open Library
open Library.Decimal

/-! The texts of the four fields: how many characters they take, and which
characters they are made of. -/

namespace GUI

open HD44780

def temperatureField (shown : Shown) : List UInt8 :=
  hundredthsText shown.bmp280Meas.temperature.toInt ++ ascii "C "

def pressureField (shown : Shown) : List UInt8 :=
  hundredthsText shown.bmp280Meas.pressure.toNat ++ ascii "hPa "

def outdoorField (shown : Shown) : List UInt8 :=
  outdoorNumeral shown.ds18b20Meas ++ ascii "C "

def humidityField (shown : Shown) : List UInt8 :=
  integerText shown.dht11Meas.humidity.toNat 0 ++ ascii "%"

section Lengths

theorem length_hundredthsText_of_nonneg (number : Nat) :
    (hundredthsText number).length = (numeral (number / 100)).length + 3 := by
  rw [hundredthsText_of_nonneg, List.length_append, List.length_cons,
    length_integerText_two (Nat.mod_lt number (by decide))]

theorem length_hundredthsText_of_neg {number : Nat} (positive : 0 < number) :
    (hundredthsText (-(number : Int))).length =
      (if 100 ≤ number then 1 else 0) + (numeral (number / 100)).length +
        (if 100 ∣ number then 0 else 1) + 3 := by
  have small := Nat.mod_lt number (show 100 > 0 by decide)
  have front : (integerText (-(number / 100 : Nat)) 0).length =
      (if 100 ≤ number then 1 else 0) + (numeral (number / 100)).length := by
    by_cases large : 100 ≤ number
    · rw [if_pos large, integerText_neg (by omega), List.length_cons,
        integerText_zero_padded, Nat.add_comm]
    · have zero : number / 100 = 0 := by omega
      rw [if_neg large, zero, show -((0 : Nat) : Int) = ((0 : Nat) : Int) from
        rfl, integerText_zero_padded, Nat.zero_add]
  have back : (integerText (-(number % 100 : Nat)) 2).length =
      (if 100 ∣ number then 0 else 1) + 2 := by
    by_cases whole : 100 ∣ number
    · rw [if_pos whole, Nat.mod_eq_zero_of_dvd whole,
        show -((0 : Nat) : Int) = ((0 : Nat) : Int) from rfl,
        length_integerText_two (by decide)]
    · rw [if_neg whole, integerText_neg (by omega), List.length_cons,
        length_integerText_two small, Nat.add_comm]
  rw [hundredthsText_of_neg positive, List.length_append, List.length_cons,
    front, back]
  omega

/-- How many characters the indoor temperature takes on the display. -/
def temperatureWidth (shown : Shown) : Nat :=
  let temperature := shown.bmp280Meas.temperature.toInt
  (if temperature ≤ -100 then 1 else 0) +
    (numeral (temperature.natAbs / 100)).length +
    (if 0 ≤ temperature ∨ 100 ∣ temperature then 0 else 1) + 5

def pressureWidth (shown : Shown) : Nat :=
  (numeral (shown.bmp280Meas.pressure.toNat / 100)).length + 7

theorem length_temperatureField (shown : Shown) :
    (temperatureField shown).length = temperatureWidth shown := by
  have unit : (ascii "C ").length = 2 := by decide
  rw [temperatureField, List.length_append, unit, temperatureWidth]
  obtain ⟨number, same | same⟩ :=
    shown.bmp280Meas.temperature.toInt.eq_nat_or_neg
  · simp only [same, length_hundredthsText_of_nonneg, Int.natAbs_natCast]
    rw [if_neg (by omega), if_pos (Or.inl (by omega))]
    omega
  · rcases Nat.eq_zero_or_pos number with zero | positive
    · subst zero
      simp only [same]
      decide
    · have whole : 0 ≤ -(number : Int) ∨ (100 : Int) ∣ -(number : Int) ↔
          100 ∣ number := by omega
      have large : -(number : Int) ≤ -100 ↔ 100 ≤ number := by omega
      simp only [same, length_hundredthsText_of_neg positive, Int.natAbs_neg,
        Int.natAbs_natCast, whole, large]

theorem length_pressureField (shown : Shown) :
    (pressureField shown).length = pressureWidth shown := by
  have unit : (ascii "hPa ").length = 4 := by decide
  rw [pressureField, List.length_append, unit, length_hundredthsText_of_nonneg,
    pressureWidth]

theorem length_temperatureField_le (shown : Shown) :
    (temperatureField shown).length ≤ 15 := by
  rw [length_temperatureField]
  have lower := shown.bmp280Meas.temperature.le_toInt
  have upper := shown.bmp280Meas.temperature.toInt_lt
  have digits := (length_numeral_le_iff (show 0 < 8 by decide)
    (shown.bmp280Meas.temperature.toInt.natAbs / 100)).mpr (by omega)
  simp only [temperatureWidth]
  split <;> split <;> omega

theorem length_pressureField_le (shown : Shown) :
    (pressureField shown).length ≤ 15 := by
  rw [length_pressureField]
  have bound := shown.bmp280Meas.pressure.toNat_lt
  have digits := (length_numeral_le_iff (show 0 < 8 by decide)
    (shown.bmp280Meas.pressure.toNat / 100)).mpr (by omega)
  simp only [pressureWidth]
  omega

theorem length_outdoorField (shown : Shown) :
    7 ≤ (outdoorField shown).length ∧ (outdoorField shown).length ≤ 10 := by
  have integerBound := shown.ds18b20Meas.integer.toNat_lt
  have fractionBound := shown.ds18b20Meas.fraction.toNat_lt
  have unit : (ascii "C ").length = 2 := by decide
  have sign : (signText shown.ds18b20Meas.sign).length = 1 := by
    cases shown.ds18b20Meas.sign <;> rfl
  have integer := (length_numeral_le_iff (show 0 < 3 by decide)
    shown.ds18b20Meas.integer.toNat).mpr (by omega)
  have fraction := (length_numeral_le_iff (show 0 < 3 by decide)
    shown.ds18b20Meas.fraction.toNat).mpr (by omega)
  have integerPos := length_numeral_pos shown.ds18b20Meas.integer.toNat
  simp only [outdoorField, outdoorNumeral, List.length_append,
    List.length_cons, integerText_zero_padded, integerText_of_nonneg _ 2,
    List.length_replicate, unit, sign]
  omega

theorem length_humidityField (shown : Shown) :
    (humidityField shown).length =
      (numeral shown.dht11Meas.humidity.toNat).length + 1 := by
  rw [humidityField, integerText_zero_padded, List.length_append]
  rfl

theorem length_humidityField_le (shown : Shown) :
    (humidityField shown).length ≤ 4 := by
  have bound := shown.dht11Meas.humidity.toNat_lt
  have digits := (length_numeral_le_iff (show 0 < 3 by decide)
    shown.dht11Meas.humidity.toNat).mpr (by omega)
  rw [length_humidityField]
  omega

theorem humidityField_short_iff (shown : Shown) :
    (humidityField shown).length ≤ 2 ↔
      shown.dht11Meas.humidity.toNat < 10 := by
  have digits := length_numeral_le_iff (show 0 < 1 by decide)
    shown.dht11Meas.humidity.toNat
  rw [length_humidityField, ← Nat.pow_one 10, ← digits]
  omega

end Lengths

section Characters

/-- The characters numbers are made of. -/
def Numeric (byte : UInt8) : Prop :=
  byte = 45 ∨ byte = 46 ∨ isDigit byte = true

theorem numeric_of_mem_integerText {number : Int} {length : Nat} {byte : UInt8}
    (member : byte ∈ integerText number length) : Numeric byte := by
  unfold integerText at member
  simp only [List.mem_append, List.mem_replicate] at member
  rcases member with (sign | ⟨-, zero⟩) | digit
  · split at sign
    · exact Or.inl (List.mem_singleton.mp sign)
    · simp at sign
  · subst zero
    exact Or.inr (Or.inr (by decide))
  · exact Or.inr (Or.inr (isDigit_of_mem_numeral digit))

theorem numeric_of_mem_hundredthsText {hundredths : Int} {byte : UInt8}
    (member : byte ∈ hundredthsText hundredths) : Numeric byte := by
  unfold hundredthsText at member
  rcases List.mem_append.mp member with whole | rest
  · exact numeric_of_mem_integerText whole
  · rcases List.mem_cons.mp rest with point | part
    · exact Or.inr (Or.inl point)
    · exact numeric_of_mem_integerText part

theorem not_mem_hundredthsText {byte : UInt8} (foreign : ¬Numeric byte)
    (hundredths : Int) : byte ∉ hundredthsText hundredths :=
  fun member => foreign (numeric_of_mem_hundredthsText member)

theorem not_numeric_blank : ¬Numeric Screen.blank := by
  unfold Numeric
  decide

theorem temperatureField_ended (shown : Shown) :
    Ended Screen.blank (temperatureField shown) where
  body := by
    refine ⟨hundredthsText shown.bmp280Meas.temperature.toInt ++ [67], ?_, ?_⟩
    · rw [temperatureField, List.append_assoc]
      rfl
    · simpa [Screen.blank] using not_mem_hundredthsText not_numeric_blank _

theorem pressureField_ended (shown : Shown) :
    Ended Screen.blank (pressureField shown) where
  body := by
    refine ⟨hundredthsText shown.bmp280Meas.pressure.toNat ++ [104, 80, 97],
      ?_, ?_⟩
    · rw [pressureField, List.append_assoc]
      rfl
    · simpa [Screen.blank] using not_mem_hundredthsText not_numeric_blank _

theorem not_mem_temperatureField (shown : Shown) :
    (79 : UInt8) ∉ temperatureField shown := by
  have foreign : ¬Numeric 79 := by
    unfold Numeric
    decide
  simp [temperatureField, ascii, not_mem_hundredthsText foreign]

theorem not_mem_pressureField (shown : Shown) :
    (72 : UInt8) ∉ pressureField shown := by
  have foreign : ¬Numeric 72 := by
    unfold Numeric
    decide
  simp [pressureField, ascii, not_mem_hundredthsText foreign]

theorem not_mem_humidityField (shown : Shown) :
    Screen.blank ∉ humidityField shown := by
  intro member
  rcases List.mem_append.mp member with digit | percent
  · exact not_numeric_blank (numeric_of_mem_integerText digit)
  · exact absurd percent (by decide)

end Characters

end GUI

end QuarkMeteoStation
