import Mathlib.Data.Nat.Digits.Lemmas

namespace Library.Decimal

/-! Base-10 numerals as ASCII bytes, most significant digit first. -/

def digitByte (digit : Nat) : UInt8 :=
  UInt8.ofNat (48 + digit)

def isDigit (byte : UInt8) : Bool :=
  48 ≤ byte.toNat && byte.toNat ≤ 57

def numeral (number : Nat) : List UInt8 :=
  if number = 0 then [digitByte 0]
  else ((Nat.digits 10 number).map digitByte).reverse

/-- The canonical numeral of an integer, with a leading minus sign when it is
negative. -/
def signedNumeral (number : Int) : List UInt8 :=
  if number < 0 then 45 :: numeral number.natAbs else numeral number.natAbs

def value (digits : List UInt8) : Nat :=
  digits.foldl (fun total byte => 10 * total + (byte.toNat - 48)) 0

def parseNat? (text : List UInt8) : Option Nat :=
  if text ≠ [] ∧ text.all isDigit then some (value text) else none

def parseInt? : List UInt8 → Option Int
  | [] => none
  | first :: rest =>
      if first = 45 then (parseNat? rest).map fun magnitude => -(magnitude : Int)
      else (parseNat? (first :: rest)).map Int.ofNat

theorem toNat_digitByte {digit : Nat} (bound : digit < 10) :
    (digitByte digit).toNat = 48 + digit := by
  unfold digitByte
  rw [UInt8.toNat_ofNat']
  omega

theorem isDigit_digitByte {digit : Nat} (bound : digit < 10) :
    isDigit (digitByte digit) = true := by
  simp only [isDigit, toNat_digitByte bound, Bool.and_eq_true,
    decide_eq_true_eq]
  omega

theorem isDigit_ne_zero {byte : UInt8} (digit : isDigit byte = true) :
    byte ≠ 0 := by
  intro zero
  subst zero
  exact absurd digit (by decide)

theorem numeral_of_lt {number : Nat} (small : number < 10) :
    numeral number = [digitByte number] := by
  unfold numeral
  split
  next zero => rw [zero]
  next nonzero =>
    rw [Nat.digits_of_lt 10 number nonzero small]
    rfl

theorem numeral_of_ge {number : Nat} (large : 10 ≤ number) :
    numeral number = numeral (number / 10) ++ [digitByte (number % 10)] := by
  have nonzero : number ≠ 0 := by omega
  have quotientNonzero : number / 10 ≠ 0 := by omega
  unfold numeral
  rw [if_neg nonzero, if_neg quotientNonzero,
    Nat.digits_eq_cons_digits_div (by decide) nonzero]
  simp

/-- Numerals are built digit by digit: the induction every fact below uses. -/
theorem numeral_induction {motive : Nat → Prop}
    (small : ∀ number, number < 10 → motive number)
    (large : ∀ number, 10 ≤ number → motive (number / 10) → motive number)
    (number : Nat) : motive number := by
  induction number using Nat.strong_induction_on with
  | _ number induction =>
      by_cases bound : number < 10
      · exact small number bound
      · exact large number (by omega) (induction (number / 10) (by omega))

theorem numeral_ne_nil (number : Nat) : numeral number ≠ [] := by
  by_cases bound : number < 10
  · simp [numeral_of_lt bound]
  · simp [numeral_of_ge (Nat.le_of_not_lt bound)]

theorem isDigit_of_mem_numeral {number : Nat} {byte : UInt8}
    (member : byte ∈ numeral number) : isDigit byte = true := by
  induction number using numeral_induction with
  | small number bound =>
      rw [numeral_of_lt bound, List.mem_singleton] at member
      rw [member]
      exact isDigit_digitByte bound
  | large number bound induction =>
      rw [numeral_of_ge bound, List.mem_append, List.mem_singleton] at member
      rcases member with earlier | last
      · exact induction earlier
      · rw [last]
        exact isDigit_digitByte (Nat.mod_lt _ (by decide))

theorem all_isDigit_numeral (number : Nat) :
    (numeral number).all isDigit = true :=
  List.all_eq_true.mpr fun _ member => isDigit_of_mem_numeral member

theorem zero_not_mem_numeral (number : Nat) : (0 : UInt8) ∉ numeral number :=
  fun member => isDigit_ne_zero (isDigit_of_mem_numeral member) rfl

theorem value_concat (digits : List UInt8) (last : UInt8) :
    value (digits ++ [last]) = 10 * value digits + (last.toNat - 48) := by
  simp [value]

theorem value_numeral (number : Nat) : value (numeral number) = number := by
  induction number using numeral_induction with
  | small number bound =>
      rw [numeral_of_lt bound]
      simp only [value, List.foldl_cons, List.foldl_nil, toNat_digitByte bound]
      omega
  | large number bound induction =>
      rw [numeral_of_ge bound, value_concat, induction,
        toNat_digitByte (Nat.mod_lt _ (by decide))]
      omega

theorem numeral_injective : Function.Injective numeral := by
  intro first second same
  rw [← value_numeral first, ← value_numeral second, same]

theorem parseNat?_numeral (number : Nat) :
    parseNat? (numeral number) = some number := by
  unfold parseNat?
  rw [if_pos ⟨numeral_ne_nil number, all_isDigit_numeral number⟩,
    value_numeral]

theorem length_numeral_le_iff {count : Nat} (positive : 0 < count)
    (number : Nat) :
    (numeral number).length ≤ count ↔ number < 10 ^ count := by
  unfold numeral
  split
  next zero =>
    subst zero
    have power : 0 < 10 ^ count := Nat.pow_pos (by decide)
    exact ⟨fun _ => power, fun _ => positive⟩
  next nonzero =>
    rw [List.length_reverse, List.length_map]
    exact Nat.digits_length_le_iff (by decide) number

theorem length_numeral_mono {smaller larger : Nat} (le : smaller ≤ larger) :
    (numeral smaller).length ≤ (numeral larger).length := by
  have positive : 0 < (numeral larger).length :=
    List.length_pos_of_ne_nil (numeral_ne_nil larger)
  have bound := (length_numeral_le_iff positive larger).mp (Nat.le_refl _)
  exact (length_numeral_le_iff positive smaller).mpr
    (Nat.lt_of_le_of_lt le bound)

theorem length_numeral_pos (number : Nat) : 0 < (numeral number).length :=
  List.length_pos_of_ne_nil (numeral_ne_nil number)

theorem length_numeral (number : Nat) :
    (numeral number).length = Nat.log 10 number + 1 := by
  unfold numeral
  split
  next zero =>
    rw [zero, Nat.log_zero_right]
    rfl
  next nonzero =>
    rw [List.length_reverse, List.length_map,
      Nat.length_digits 10 number (by decide) nonzero]

section Canonical

/-- The digit strings that stand for one number each. -/
structure Canonical (digits : List UInt8) : Prop where
  nonempty : digits ≠ []
  digit : ∀ byte ∈ digits, isDigit byte = true
  leading : digits.head? = some 48 → digits = [48]

theorem canonical_numeral (number : Nat) : Canonical (numeral number) := by
  refine ⟨numeral_ne_nil number, fun _ => isDigit_of_mem_numeral, ?_⟩
  induction number using numeral_induction with
  | small number bound =>
      rw [numeral_of_lt bound, List.head?_cons]
      intro zero
      rw [Option.some.inj zero]
  | large number bound induction =>
      rw [numeral_of_ge bound,
        List.head?_append_of_ne_nil _ (numeral_ne_nil (number / 10))]
      intro zero
      have front := value_numeral (number / 10)
      rw [induction zero] at front
      have none : value [48] = 0 := rfl
      omega

variable {digits : List UInt8}

theorem Canonical.front {last : UInt8} (canonical : Canonical (digits ++ [last]))
    (nonempty : digits ≠ []) : Canonical digits ∧ digits.head? ≠ some 48 := by
  have significant : digits.head? ≠ some 48 := by
    intro zero
    have whole := canonical.leading
      ((List.head?_append_of_ne_nil digits nonempty).trans zero)
    have length := congrArg List.length whole
    have positive := List.length_pos_of_ne_nil nonempty
    simp only [List.length_append, List.length_singleton] at length
    omega
  refine ⟨⟨nonempty, ?_, ?_⟩, significant⟩
  · intro byte member
    exact canonical.digit byte (List.mem_append_left _ member)
  · intro zero
    exact absurd zero significant

theorem digitByte_of_isDigit {byte : UInt8} (digit : isDigit byte = true) :
    digitByte (byte.toNat - 48) = byte := by
  simp only [isDigit, Bool.and_eq_true, decide_eq_true_eq] at digit
  apply UInt8.toNat_inj.mp
  rw [toNat_digitByte (by omega)]
  omega

/-- A canonical digit string is the numeral of what it reads as. -/
theorem Canonical.eq_numeral (canonical : Canonical digits) :
    digits = numeral (value digits) := by
  induction digits using List.reverseRecOn with
  | nil => exact absurd rfl canonical.nonempty
  | append_singleton front last induction =>
      have lastDigit := canonical.digit last (by simp)
      have lastByte := digitByte_of_isDigit lastDigit
      simp only [isDigit, Bool.and_eq_true, decide_eq_true_eq] at lastDigit
      rw [value_concat]
      by_cases single : front = []
      · subst single
        have nothing : value [] = 0 := rfl
        rw [nothing, numeral_of_lt (by omega), List.nil_append]
        rw [Nat.mul_zero, Nat.zero_add, lastByte]
      · obtain ⟨frontCanonical, significant⟩ := canonical.front single
        have frontNumeral := induction frontCanonical
        have positive : value front ≠ 0 := by
          intro zero
          rw [zero] at frontNumeral
          exact significant (by rw [frontNumeral]; rfl)
        rw [numeral_of_ge (by omega)]
        have quotient :
            (10 * value front + (last.toNat - 48)) / 10 = value front := by
          omega
        have remainder : (10 * value front + (last.toNat - 48)) % 10 =
            last.toNat - 48 := by
          omega
        rw [quotient, remainder, lastByte, ← frontNumeral]

end Canonical

theorem parseInt?_of_digits {text : List UInt8} {number : Nat}
    (parsed : parseNat? text = some number) :
    parseInt? text = some (number : Int) := by
  cases text with
  | nil => simp [parseNat?] at parsed
  | cons first rest =>
      have firstDigit : isDigit first = true := by
        unfold parseNat? at parsed
        split at parsed
        next shape => exact (List.all_eq_true.mp shape.2) first (by simp)
        next => contradiction
      have notMinus : first ≠ 45 := by
        intro minus
        subst minus
        exact absurd firstDigit (by decide)
      simp only [parseInt?, if_neg notMinus, parsed, Option.map_some]
      rfl

theorem parseInt?_numeral (number : Nat) :
    parseInt? (numeral number) = some (number : Int) :=
  parseInt?_of_digits (parseNat?_numeral number)

theorem parseInt?_minus_numeral (number : Nat) :
    parseInt? (45 :: numeral number) = some (-(number : Int)) := by
  simp [parseInt?, parseNat?_numeral]

end Library.Decimal
