import Mathlib.Algebra.BigOperators.Ring.Finset
import Mathlib.Algebra.Order.BigOperators.Group.List
import Mathlib.Algebra.Order.Ring.Int
import Mathlib.Algebra.Order.Ring.Nat

namespace Library

/-! Means of bounded samples, and the words their sums are kept in. -/

def truncatedMean (samples : List Int) : Int :=
  samples.sum.tdiv samples.length

def floorMean (samples : List Nat) : Nat :=
  samples.sum / samples.length

theorem floorMean_of_constant {samples : List Nat} {value : Nat}
    (nonempty : samples ≠ []) (constant : ∀ sample ∈ samples, sample = value) :
    floorMean samples = value := by
  have repeated : samples = List.replicate samples.length value :=
    List.eq_replicate_of_mem constant
  have positive := List.length_pos_of_ne_nil nonempty
  rw [floorMean, repeated, List.sum_replicate, List.length_replicate,
    nsmul_eq_mul, Nat.cast_id, Nat.mul_div_cancel_left _ positive]

theorem sum_bounds {samples : List Int} {bound : Int}
    (lower : ∀ sample ∈ samples, -bound ≤ sample)
    (upper : ∀ sample ∈ samples, sample ≤ bound) :
    -(samples.length * bound) ≤ samples.sum ∧
      samples.sum ≤ samples.length * bound := by
  have below := List.card_nsmul_le_sum samples (-bound) lower
  have above := List.sum_le_card_nsmul samples bound upper
  simp only [nsmul_eq_mul, Int.mul_neg] at below above
  exact ⟨below, above⟩

theorem natSum_le {samples : List Nat} {bound : Nat}
    (upper : ∀ sample ∈ samples, sample ≤ bound) :
    samples.sum ≤ samples.length * bound := by
  simpa using List.sum_le_card_nsmul samples bound upper

theorem truncatedMean_bounds {samples : List Int} {bound : Int}
    (nonempty : samples ≠ [])
    (lower : ∀ sample ∈ samples, -bound ≤ sample)
    (upper : ∀ sample ∈ samples, sample ≤ bound) :
    -bound ≤ truncatedMean samples ∧ truncatedMean samples ≤ bound := by
  obtain ⟨below, above⟩ := sum_bounds lower upper
  have positive : (0 : Int) < samples.length := by
    have := List.length_pos_of_ne_nil nonempty
    omega
  have least := Int.tdiv_le_tdiv positive below
  have greatest := Int.tdiv_le_tdiv positive above
  rw [← Int.mul_neg, Int.mul_tdiv_cancel_left _ (by omega)] at least
  rw [Int.mul_tdiv_cancel_left _ (by omega)] at greatest
  exact ⟨least, greatest⟩

theorem tdiv_natCast_bounds {value lower upper : Int} (count : Nat)
    (below : lower ≤ value) (above : value ≤ upper) (lowerSign : lower ≤ 0)
    (upperSign : 0 ≤ upper) :
    lower ≤ value.tdiv count ∧ value.tdiv count ≤ upper := by
  have shrinks := Int.natAbs_tdiv_le_natAbs value count
  by_cases sign : 0 ≤ value
  · have quotientSign := Int.tdiv_nonneg sign (Int.natCast_nonneg count)
    omega
  · have opposite := Int.tdiv_nonneg (a := -value) (by omega)
      (Int.natCast_nonneg count)
    rw [Int.neg_tdiv] at opposite
    omega

theorem floorMean_le {samples : List Nat} {bound : Nat}
    (upper : ∀ sample ∈ samples, sample ≤ bound) :
    floorMean samples ≤ bound :=
  Nat.div_le_of_le_mul (natSum_le upper)

theorem truncatedMean_nonneg {samples : List Int}
    (nonnegative : ∀ sample ∈ samples, 0 ≤ sample) :
    0 ≤ truncatedMean samples :=
  Int.tdiv_nonneg (List.sum_nonneg nonnegative) (Int.natCast_nonneg _)

theorem truncatedMean_nonneg_iff {samples : List Int}
    (nonempty : samples ≠ []) :
    0 ≤ truncatedMean samples ↔ -(samples.length : Int) < samples.sum := by
  have positive : (0 : Int) < samples.length := by
    have := List.length_pos_of_ne_nil nonempty
    omega
  unfold truncatedMean
  constructor
  · intro nonnegative
    by_contra low
    have least := Int.tdiv_le_tdiv positive (Int.not_lt.mp low)
    rw [Int.neg_tdiv, Int.tdiv_self (by omega)] at least
    omega
  · intro high
    by_cases sumSign : 0 ≤ samples.sum
    · exact Int.tdiv_nonneg sumSign (by omega)
    · have vanishes : (-samples.sum).tdiv samples.length = 0 :=
        Int.tdiv_eq_zero_of_lt (by omega) (by omega)
      rw [Int.neg_tdiv] at vanishes
      omega

theorem truncatedMean_natCast (samples : List Nat) :
    truncatedMean (samples.map fun sample : Nat => (sample : Int)) =
      floorMean samples := by
  have total : (samples.map fun sample : Nat => (sample : Int)).sum =
      (samples.sum : Int) := (Nat.cast_list_sum samples).symm
  simp only [truncatedMean, floorMean, total, List.length_map]
  rfl

theorem bmod32_eq_self {value : Int} (lower : -2 ^ 31 ≤ value)
    (upper : value < 2 ^ 31) : value.bmod (2 ^ 32) = value := by
  apply Int.bmod_eq_of_le <;> omega

end Library
