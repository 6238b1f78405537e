import Mathlib.Data.List.Induction
import QuarkMeteoStation.Library.CString
import QuarkMeteoStation.Library.Decimal

namespace QuarkMeteoStation

open Library
open Library.Decimal

/-! `utoa.c`: the reversing decimal converter. -/

/-- The swap loop of `strrev`. For the empty string the source starts with
`j = -1`; with natural indices `j = 0`, and in both cases no swap happens. -/
def strrevLoop (string : Buffer) (i j : Nat) : Buffer :=
  if i < j then
    let temp := string.load i
    let string := string.store i (string.load j)
    let string := string.store j temp
    strrevLoop string (i + 1) (j - 1)
  else string
termination_by j - i

def strrev (string : Buffer) : Buffer :=
  strrevLoop string 0 (string.strlen - 1)

theorem toNat_div_ten (number : UInt32) :
    (number / 10).toNat = number.toNat / 10 := by
  simp [UInt32.toNat_div]

/-- The digit loop of `utoa`, least significant digit first. -/
def utoaDigits (number : UInt32) (result : Buffer) (digitCount : UInt8) :
    Buffer × UInt8 :=
  let result := result.store digitCount.toNat ((number % 10).toUInt8 + 48)
  if 0 < number / 10 then utoaDigits (number / 10) result (digitCount + 1)
  else (result, digitCount + 1)
termination_by number.toNat
decreasing_by
  rename_i positive
  have quotient := UInt32.lt_iff_toNat_lt.mp positive
  rw [toNat_div_ten] at quotient ⊢
  simp only [UInt32.toNat_zero] at quotient
  omega

def utoa (number : UInt32) (result : Buffer) : Buffer :=
  let (result, digitCount) := utoaDigits number result 0
  strrev (result.store digitCount.toNat 0)

private theorem load_at {buffer : Buffer} {front rest : List UInt8}
    {byte : UInt8} (image : buffer.bytes = front ++ byte :: rest) :
    buffer.load front.length = byte := by
  simp [Buffer.load, image]

private theorem swap_bytes {buffer : Buffer}
    {front middle back : List UInt8} {first last : UInt8}
    (image : buffer.bytes = front ++ first :: (middle ++ last :: back)) :
    let swapped := (buffer.store front.length last).store
      (front.length + middle.length + 1) first
    swapped.bytes = front ++ last :: (middle ++ first :: back) := by
  intro swapped
  have head : (buffer.store front.length last).bytes =
      (front ++ last :: middle) ++ last :: back := by
    rw [Buffer.store_bytes image]
    simp
  have position : front.length + middle.length + 1 =
      (front ++ last :: middle).length := by
    simp [Nat.add_assoc]
  have tail := Buffer.store_bytes head first
  rw [← position] at tail
  rw [tail]
  simp

theorem strrevLoop_bytes (segment : List UInt8) :
    ∀ {buffer : Buffer} {front back : List UInt8},
      buffer.bytes = front ++ segment ++ back →
      (strrevLoop buffer front.length (front.length + segment.length - 1)).bytes =
        front ++ segment.reverse ++ back := by
  induction segment using List.bidirectionalRec with
  | nil =>
      intro buffer front back image
      rw [strrevLoop, if_neg (by simp)]
      simpa using image
  | singleton byte =>
      intro buffer front back image
      rw [strrevLoop, if_neg (by simp)]
      simpa using image
  | cons_append first middle last induction =>
      intro buffer front back image
      have regrouped :
          buffer.bytes = front ++ first :: (middle ++ last :: back) := by
        rw [image]
        simp
      have lastIndex : front.length + (first :: (middle ++ [last])).length - 1 =
          front.length + middle.length + 1 := by
        simp
        omega
      have loadFirst : buffer.load front.length = first := load_at regrouped
      have loadLast : buffer.load (front.length + middle.length + 1) = last := by
        have later : buffer.bytes =
            (front ++ first :: middle) ++ last :: back := by
          rw [regrouped]
          simp
        simpa [Nat.add_assoc] using load_at later
      have swapped := swap_bytes regrouped
      simp only at swapped
      have inner : ((buffer.store front.length last).store
          (front.length + middle.length + 1) first).bytes =
            (front ++ [last]) ++ middle ++ (first :: back) := by
        rw [swapped]
        simp
      have reversed := induction inner
      rw [strrevLoop, lastIndex, if_pos (by omega), loadFirst, loadLast]
      have nextIndices : front.length + 1 = (front ++ [last]).length ∧
          front.length + middle.length + 1 - 1 =
            (front ++ [last]).length + middle.length - 1 := by
        simp
      rw [nextIndices.1, nextIndices.2, reversed]
      simp

theorem strrevLoop_written (buffer : Buffer) (i j : Nat)
    (inside : j + 1 ≤ buffer.written) :
    (strrevLoop buffer i j).written = buffer.written := by
  induction buffer, i, j using strrevLoop.induct with
  | case1 buffer i j smaller temp first second induction =>
      have stored : second.written = buffer.written := by
        simp only [second, first, Buffer.store]
        omega
      rw [strrevLoop, if_pos smaller]
      simp only
      rw [induction (by rw [stored]; omega), stored]
  | case2 buffer i j finished => rw [strrevLoop, if_neg finished]

private theorem digit_byte (number : UInt32) :
    (number % 10).toUInt8 + 48 = digitByte (number.toNat % 10) := by
  apply UInt8.toNat_inj.mp
  rw [toNat_digitByte (Nat.mod_lt _ (by decide))]
  simp [UInt8.toNat_add, UInt32.toNat_mod]
  omega

private theorem store_digit {number : UInt32} {result : Buffer}
    {digitCount : UInt8} {front rest : List UInt8}
    (image : result.bytes = front ++ rest)
    (counted : digitCount.toNat = front.length) :
    let stored := result.store digitCount.toNat ((number % 10).toUInt8 + 48)
    stored.bytes =
        (front ++ [digitByte (number.toNat % 10)]) ++ rest.drop 1 ∧
      stored.written = max result.written (front.length + 1) := by
  refine ⟨?_, ?_⟩
  · rw [counted, digit_byte, Buffer.store_bytes image]
    simp
  · simp only [Buffer.store, counted]

/-- The loop appends the numeral of the remaining number, reversed. -/
theorem utoaDigits_spec (number : UInt32) (result : Buffer)
    (digitCount : UInt8) :
    ∀ {front rest : List UInt8}, result.bytes = front ++ rest →
      digitCount.toNat = front.length →
      front.length + (numeral number.toNat).length < 256 →
      let digits := (numeral number.toNat).reverse
      (utoaDigits number result digitCount).1.bytes =
          front ++ digits ++ rest.drop digits.length ∧
        (utoaDigits number result digitCount).1.written =
          max result.written (front.length + digits.length) ∧
        (utoaDigits number result digitCount).2.toNat =
          front.length + digits.length := by
  induction number, result, digitCount using utoaDigits.induct with
  | case1 number result digitCount stored more =>
      rename_i induction
      intro front rest image counted bound digits
      obtain ⟨storedBytes, storedWritten⟩ :=
        @store_digit number result digitCount front rest image counted
      have quotient := UInt32.lt_iff_toNat_lt.mp more
      rw [toNat_div_ten, UInt32.toNat_zero] at quotient
      have split := @numeral_of_ge number.toNat (by omega)
      have lengths : (numeral number.toNat).length =
          (numeral (number.toNat / 10)).length + 1 := by
        rw [split, List.length_append, List.length_singleton]
      have nextCounted : (digitCount + 1).toNat =
          (front ++ [digitByte (number.toNat % 10)]).length := by
        rw [UInt8.toNat_add, counted]
        simp
        omega
      obtain ⟨bytes, written, count⟩ := induction storedBytes nextCounted (by
        rw [toNat_div_ten, List.length_append, List.length_singleton]
        omega)
      have unfolded : utoaDigits number result digitCount =
          utoaDigits (number / 10) stored (digitCount + 1) := by
        rw [utoaDigits, if_pos more]
      have reversed : digits = digitByte (number.toNat % 10) ::
          (numeral (number.toNat / 10)).reverse := by
        simp only [digits, split, List.reverse_append, List.reverse_singleton,
          List.singleton_append]
      rw [unfolded, reversed]
      refine ⟨?_, ?_, ?_⟩
      · rw [bytes, toNat_div_ten]
        simp [Nat.add_comm]
      · rw [written, storedWritten, toNat_div_ten]
        simp
        omega
      · rw [count, toNat_div_ten]
        simp
        omega
  | case2 number result digitCount finished =>
      intro front rest image counted bound digits
      have small : number.toNat < 10 := by
        rw [UInt32.lt_iff_toNat_lt, toNat_div_ten, UInt32.toNat_zero] at finished
        omega
      have single : digits = [digitByte (number.toNat % 10)] := by
        simp only [digits, numeral_of_lt small, Nat.mod_eq_of_lt small,
          List.reverse_singleton]
      obtain ⟨storedBytes, storedWritten⟩ :=
        @store_digit number result digitCount front rest image counted
      rw [utoaDigits, if_neg finished, single]
      refine ⟨?_, ?_, ?_⟩
      · exact storedBytes
      · exact storedWritten
      · rw [UInt8.toNat_add, counted]
        have := Decimal.length_numeral_pos number.toNat
        simp
        omega

theorem length_numeral_uint32 (number : UInt32) :
    (numeral number.toNat).length ≤ 10 := by
  rw [length_numeral_le_iff (by decide)]
  have bound := number.toNat_lt
  omega

private theorem unreversed_spec (number : UInt32) (result : Buffer) :
    let unreversed := (utoaDigits number result 0).1.store
      (utoaDigits number result 0).2.toNat 0
    unreversed.bytes = (numeral number.toNat).reverse ++
        0 :: result.bytes.drop ((numeral number.toNat).length + 1) ∧
      unreversed.written =
        max result.written ((numeral number.toNat).length + 1) ∧
      unreversed.strlen = (numeral number.toNat).length := by
  intro unreversed
  have bound := length_numeral_uint32 number
  obtain ⟨bytes, written, count⟩ := @utoaDigits_spec number result 0
    [] result.bytes rfl rfl (by simp; omega)
  simp only [List.nil_append, List.length_nil, List.length_reverse,
    Nat.zero_add] at bytes written count
  have position : (utoaDigits number result 0).2.toNat =
      (numeral number.toNat).reverse.length := by
    rw [count, List.length_reverse]
  have terminated : unreversed.bytes = (numeral number.toNat).reverse ++
      0 :: result.bytes.drop ((numeral number.toNat).length + 1) := by
    simp only [unreversed]
    rw [position, Buffer.store_bytes bytes]
    simp
  have holds : unreversed.Holds (numeral number.toNat).reverse :=
    ⟨by simpa using zero_not_mem_numeral number.toNat, _, terminated⟩
  refine ⟨terminated, ?_, ?_⟩
  · simp only [unreversed, Buffer.store, written, count]
    omega
  · rw [holds.strlen_eq, List.length_reverse]

/-- `utoa` leaves the canonical numeral and its NUL in front of the bytes the
buffer already held, and stores to nothing else. -/
theorem utoa_bytes (number : UInt32) (result : Buffer) :
    (utoa number result).bytes =
      numeral number.toNat ++
        0 :: result.bytes.drop ((numeral number.toNat).length + 1) := by
  obtain ⟨bytes, -, length⟩ := unreversed_spec number result
  have reversed := @strrevLoop_bytes (numeral number.toNat).reverse _
    [] _ bytes
  simp only [utoa, strrev, length]
  simpa using reversed

theorem utoa_written (number : UInt32) (result : Buffer) :
    (utoa number result).written =
      max result.written ((numeral number.toNat).length + 1) := by
  obtain ⟨-, written, length⟩ := unreversed_spec number result
  have positive := length_numeral_pos number.toNat
  simp only [utoa, strrev, length]
  rw [strrevLoop_written _ _ _ (by rw [written]; omega), written]

theorem utoa_holds (number : UInt32) (result : Buffer) :
    (utoa number result).Holds (numeral number.toNat) :=
  ⟨zero_not_mem_numeral number.toNat, _, utoa_bytes number result⟩

/-- What the converter makes of a buffer: `digits` and a NUL in front of the
bytes that were there, and no store behind them. -/
structure Encoded (number : UInt32) (before after : Buffer)
    (digits : List UInt8) : Prop where
  canonical : Canonical digits
  significant : number ≠ 0 → digits.head? ≠ some 48
  value : value digits = number.toNat
  only : ∀ other, Canonical other → Decimal.value other = number.toNat →
    other = digits
  count : digits.length = Nat.log 10 number.toNat + 1
  bytes : after.bytes = digits ++ 0 :: before.bytes.drop (digits.length + 1)
  written : after.written = max before.written (digits.length + 1)

theorem utoa_encoded (number : UInt32) (result : Buffer) :
    Encoded number result (utoa number result) (numeral number.toNat) := by
  refine ⟨canonical_numeral _, ?_, value_numeral _, ?_, length_numeral _,
    utoa_bytes number result, utoa_written number result⟩
  · intro nonzero zero
    have none := value_numeral number.toNat
    rw [(canonical_numeral _).leading zero] at none
    exact nonzero (UInt32.toNat_inj.mp none.symm)
  · intro other canonical same
    rw [canonical.eq_numeral, same]

/-- `utoa` is the canonical decimal encoder. -/
theorem utoa_canonical :
    (∀ (number : UInt32) (result : Buffer),
      let encoded := utoa number result
      Encoded number result encoded encoded.cstring ∧
        1 ≤ encoded.cstring.length ∧ encoded.cstring.length ≤ 10 ∧
        encoded.written ≤ max result.written 11) ∧
    ∀ (first second : UInt32) (firstResult secondResult : Buffer),
      (utoa first firstResult).cstring = (utoa second secondResult).cstring →
        first = second := by
  constructor
  · intro number result encoded
    have short := length_numeral_uint32 number
    have text : encoded.cstring = numeral number.toNat :=
      (utoa_holds number result).cstring_eq
    rw [text]
    refine ⟨utoa_encoded number result, length_numeral_pos _, short, ?_⟩
    rw [utoa_written]
    omega
  · intro first second firstResult secondResult same
    rw [(utoa_holds first firstResult).cstring_eq,
      (utoa_holds second secondResult).cstring_eq] at same
    exact UInt32.toNat_inj.mp (numeral_injective same)

end QuarkMeteoStation
