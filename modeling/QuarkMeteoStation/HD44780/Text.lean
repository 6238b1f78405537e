import QuarkMeteoStation.HD44780

namespace QuarkMeteoStation

open Library
open Library.Decimal

/-! The characters a number is written as. -/

namespace HD44780

/-- A number with its minus sign in front of a padded magnitude. -/
def integerText (number : Int) (requiredLength : Nat) : List UInt8 :=
  let digits := numeral number.natAbs
  (if number < 0 then [45] else []) ++
    List.replicate (requiredLength - digits.length) 48 ++ digits

theorem toNat_toUInt32 (number : Int32) :
    (number.toUInt32.toNat : Int) = number.toInt % 4294967296 := by
  have bound := number.toUInt32.toNat_lt
  have signed : number.toInt =
      if 2 * number.toUInt32.toNat < 2 ^ 32 then (number.toUInt32.toNat : Int)
      else number.toUInt32.toNat - 2 ^ 32 :=
    BitVec.toInt_eq_toNat_cond number.toBitVec
  rw [signed]
  split <;> omega

theorem toNat_magnitude (number : Int32) :
    (if number < 0 then -number else number).toUInt32.toNat =
      number.toInt.natAbs := by
  have lower := number.le_toInt
  have upper := number.toInt_lt
  have zero : (0 : Int32).toInt = 0 := rfl
  split
  next negative =>
    rw [Int32.lt_iff_toInt_lt, zero] at negative
    have value := toNat_toUInt32 (-number)
    have congruent := @Int.bmod_emod (-number.toInt) (2 ^ 32)
    rw [← Int32.toInt_neg] at congruent
    omega
  next nonnegative =>
    rw [Int32.lt_iff_toInt_lt, zero] at nonnegative
    have value := toNat_toUInt32 number
    omega

/-- The number of leading zeros passes through a signed byte: from 128 on it
is negative, and none is written. -/
theorem leadingZeros_eq (required : UInt8) {length : Nat}
    (short : length ≤ 10) :
    (Int8.ofInt ((required.toNat : Int) - length)).toInt.toNat =
      if required.toNat ≤ 127 + length then required.toNat - length
      else 0 := by
  have bound := required.toNat_lt
  have narrowed : (Int8.ofInt ((required.toNat : Int) - length)).toInt =
      ((required.toNat : Int) - length).bmod 256 := Int8.toInt_ofInt
  rw [narrowed]
  split
  next fits =>
    rw [Int.bmod_eq_of_le (by omega) (by omega)]
    omega
  next wraps =>
    have shifted := @Int.sub_bmod_right ((required.toNat : Int) - length) 256
    rw [← shifted, Int.bmod_eq_of_le (by omega) (by omega)]
    omega

/-- The local buffer after the conversion; `stack` is what lay there before. -/
def integerBuffer (number : Int32) (stack : List UInt8) : Buffer :=
  utoa (if number < 0 then -number else number).toUInt32 ⟨stack, 0⟩

section Padding

variable (number : Int32)

theorem integerBuffer_holds (stack : List UInt8) :
    (integerBuffer number stack).Holds (numeral number.toInt.natAbs) := by
  rw [← toNat_magnitude number]
  exact utoa_holds _ _

theorem length_numeral_int32 :
    (numeral number.toInt.natAbs).length ≤ 10 := by
  rw [← toNat_magnitude number]
  exact length_numeral_uint32 _

theorem integerBuffer_written (stack : List UInt8) :
    (integerBuffer number stack).written ≤ tmpBufSize := by
  have short := length_numeral_int32 number
  rw [integerBuffer, utoa_written, toNat_magnitude]
  simp only [tmpBufSize]
  omega

theorem sign_eq :
    (if number < 0 then [writeChar 45] else []) =
      writeString (if number.toInt < 0 then [45] else []) := by
  have below : number < 0 ↔ number.toInt < 0 := Int32.lt_iff_toInt_lt
  by_cases negative : number < 0
  · rw [if_pos negative, if_pos (below.mp negative)]
    rfl
  · rw [if_neg negative, if_neg fun under => negative (below.mpr under)]
    rfl

/-- What the function sends for every required length. -/
theorem writeInteger_text (required : UInt8) :
    writeInteger number required =
      writeString ((if number.toInt < 0 then [45] else []) ++
        List.replicate
          (if required.toNat ≤ 127 + (numeral number.toInt.natAbs).length then
            required.toNat - (numeral number.toInt.natAbs).length
          else 0) 48 ++
        numeral number.toInt.natAbs) := by
  have holds :=
    integerBuffer_holds number (List.replicate tmpBufSize 0)
  unfold integerBuffer at holds
  have zeros := leadingZeros_eq required (length_numeral_int32 number)
  simp only [writeInteger, holds.cstring_eq, holds.strlen_eq, zeros,
    sign_eq, writeString, List.map_append, List.map_replicate]

theorem writeInteger_eq_iff (required : UInt8) :
    writeInteger number required =
        writeString (integerText number.toInt required.toNat) ↔
      required.toNat ≤ 127 + (numeral number.toInt.natAbs).length := by
  rw [writeInteger_text]
  constructor
  · intro same
    by_contra long
    rw [if_neg long] at same
    have lengths := congrArg List.length same
    simp only [integerText, writeString, List.length_map, List.length_append,
      List.length_replicate] at lengths
    omega
  · intro fits
    rw [if_pos fits]
    rfl

theorem writeInteger_eq {required : UInt8} (small : required.toNat ≤ 127) :
    writeInteger number required =
      writeString (integerText number.toInt required.toNat) :=
  (writeInteger_eq_iff number required).mpr (by omega)

/-- A minus sign, the missing zeros and the digits, all within the buffer. -/
structure PaddedOutput (requiredLength : UInt8) : Prop where
  sent : writeInteger number requiredLength =
    writeString (integerText number.toInt requiredLength.toNat)
  bounded : ∀ stack, (integerBuffer number stack).written ≤ tmpBufSize

/-- Up to 127 zeros are written as documented, and beyond that none. -/
theorem paddedOutput_iff (requiredLength : UInt8) :
    PaddedOutput number requiredLength ↔
      requiredLength.toNat ≤
        127 + (numeral number.toInt.natAbs).length := by
  rw [← writeInteger_eq_iff number requiredLength]
  constructor
  · intro output
    exact output.sent
  · intro sent
    exact ⟨sent, integerBuffer_written number⟩

end Padding

theorem not_paddedOutput_of_129 :
    ¬∀ (number : Int32) (requiredLength : UInt8),
      -2147483648 < number.toInt → PaddedOutput number requiredLength := by
  intro padded
  have sent := (padded 5 129 (by decide)).sent
  have digits : numeral (Int32.toInt 5).natAbs = [53] :=
    numeral_of_lt (by decide)
  rw [writeInteger_eq_iff, digits] at sent
  exact absurd sent (by decide)

theorem integerText_of_nonneg (number length : Nat) :
    integerText number length =
      List.replicate (length - (numeral number).length) 48 ++
        numeral number := by
  simp [integerText, show ¬(number : Int) < 0 by omega]

theorem length_integerText_two {number : Nat} (small : number < 100) :
    (integerText number 2).length = 2 := by
  have bound := (length_numeral_le_iff (show 0 < 2 by decide) number).mpr small
  rw [integerText_of_nonneg, List.length_append, List.length_replicate]
  omega

theorem integerText_neg {number : Nat} (positive : 0 < number) (length : Nat) :
    integerText (-(number : Int)) length = 45 :: integerText number length := by
  simp [integerText, positive, show ¬(number : Int) < 0 by omega]

theorem integerText_zero_padded (whole : Nat) :
    integerText whole 0 = numeral whole := by
  rw [integerText_of_nonneg, Nat.zero_sub, List.replicate_zero,
    List.nil_append]

end HD44780

end QuarkMeteoStation
