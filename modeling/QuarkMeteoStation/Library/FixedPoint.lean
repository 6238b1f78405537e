import QuarkMeteoStation.Library.Decimal

namespace Library.FixedPoint

open Library.Decimal

/-! Signed numerals with a fixed number of decimals: an optional sign, which may
be a blank for plus, a whole part, a point and the decimals. -/

def parseMagnitude? (decimals : Nat) (text : List UInt8) : Option Nat :=
  match text.dropWhile isDigit with
  | 46 :: fraction =>
      if fraction.length = decimals then do
        let whole ← parseNat? (text.takeWhile isDigit)
        let part ← parseNat? fraction
        some (whole * 10 ^ decimals + part)
      else none
  | _ => none

/-- The value of a numeral in units of its last decimal. -/
def parse? (decimals : Nat) : List UInt8 → Option Int
  | [] => none
  | first :: rest =>
      if first = 45 then
        (parseMagnitude? decimals rest).map fun magnitude : Nat =>
          -(magnitude : Int)
      else if first = 32 then (parseMagnitude? decimals rest).map Int.ofNat
      else (parseMagnitude? decimals (first :: rest)).map Int.ofNat

/-- The digits in front of a point end there. -/
theorem split_point (whole : Nat) (fraction : List UInt8) :
    (numeral whole ++ 46 :: fraction).takeWhile isDigit = numeral whole ∧
      (numeral whole ++ 46 :: fraction).dropWhile isDigit = 46 :: fraction := by
  have digits : ∀ byte ∈ numeral whole, isDigit byte = true :=
    fun _ member => isDigit_of_mem_numeral member
  have point : isDigit 46 = false := by decide
  rw [List.takeWhile_append_of_pos digits, List.dropWhile_append_of_pos digits]
  simp [point]

theorem numeral_point_inj {whole other : Nat} {fraction rest : List UInt8}
    (same : numeral whole ++ 46 :: fraction = numeral other ++ 46 :: rest) :
    whole = other ∧ fraction = rest := by
  have front := (split_point whole fraction).1
  have back := (split_point whole fraction).2
  rw [same] at front back
  rw [(split_point other rest).1] at front
  rw [(split_point other rest).2] at back
  exact ⟨(numeral_injective front).symm, (List.cons.inj back).2.symm⟩

theorem parseMagnitude?_numeral (decimals whole : Nat) (fraction : List UInt8) :
    parseMagnitude? decimals (numeral whole ++ 46 :: fraction) =
      if fraction.length = decimals then
        (parseNat? fraction).map fun part => whole * 10 ^ decimals + part
      else none := by
  obtain ⟨front, back⟩ := split_point whole fraction
  rw [parseMagnitude?, front, back]
  simp only [parseNat?_numeral, Option.bind_eq_bind, Option.bind_some]
  split
  · cases parseNat? fraction <;> rfl
  · rfl

theorem parse?_numeral (decimals whole : Nat) (fraction : List UInt8) :
    parse? decimals (numeral whole ++ 46 :: fraction) =
      (parseMagnitude? decimals (numeral whole ++ 46 :: fraction)).map
        Int.ofNat := by
  cases shape : numeral whole with
  | nil => exact absurd shape (numeral_ne_nil whole)
  | cons first rest =>
      have digit : isDigit first = true :=
        isDigit_of_mem_numeral (by rw [shape]; exact List.mem_cons_self)
      have notMinus : first ≠ 45 := by
        rintro rfl
        exact absurd digit (by decide)
      have notBlank : first ≠ 32 := by
        rintro rfl
        exact absurd digit (by decide)
      rw [List.cons_append, parse?, if_neg notMinus, if_neg notBlank]

theorem parse?_minus (decimals : Nat) (text : List UInt8) :
    parse? decimals (45 :: text) =
      (parseMagnitude? decimals text).map fun magnitude : Nat =>
        -(magnitude : Int) := rfl

theorem parse?_blank (decimals : Nat) (text : List UInt8) :
    parse? decimals (32 :: text) =
      (parseMagnitude? decimals text).map Int.ofNat := rfl

end Library.FixedPoint
