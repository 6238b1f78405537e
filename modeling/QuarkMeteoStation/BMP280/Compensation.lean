import Mathlib.Tactic.Linarith
import QuarkMeteoStation.BMP280.Vendor

namespace QuarkMeteoStation

open Library

/-! Where the source's compensation parts from the vendor's: one square it forms
otherwise, and one quotient it halves instead of doubling. -/

namespace BMP280

namespace Vendor

/-- The compensation with its square and its quotient left open. -/
def assemble (square : Checked → Checked) (quotient : UInt32 → UInt32 → UInt32)
    (trimming : Trimming) (adcP adcT : Int32) : BMP280Meas × Bool :=
  let tFine := tFine trimming adcT
  let temperature := temperature tFine
  let a := a tFine
  let b := b trimming a
  let d := d trimming (c trimming (square a) a)
  let inRange := temperature.exact && b.exact && d.exact
  if d.value = 0 then
    ({ pressure := 0, temperature := temperature.value }, inRange)
  else
    let difference : Checked := 1048576 - (adcP : Checked)
    let pressure :=
      pressure trimming (quotient (q adcP b.value) d.value.toUInt32)
    ({ pressure := pressure.value.toUInt32, temperature := temperature.value },
      inRange && difference.exact && pressure.exact)

def square (a : Checked) : Checked := (a >>> 2) * (a >>> 2)

def aAt (trimming : Trimming) (adcT : Int32) : Checked :=
  a (tFine trimming adcT)

def qAt (trimming : Trimming) (adcP adcT : Int32) : UInt32 :=
  q adcP (b trimming (aAt trimming adcT)).value

def dAt (square : Checked → Checked) (trimming : Trimming) (adcT : Int32) :
    Checked :=
  d trimming (c trimming (square (aAt trimming adcT)) (aAt trimming adcT))

theorem compensate_eq (trimming : Trimming) (adcP adcT : Int32) :
    compensate trimming adcP adcT = assemble square r trimming adcP adcT := rfl

end Vendor

/-- The square of the source: its first factor is shifted the other way. -/
def square (a : Checked) : Checked := (a <<< 2) * (a >>> 2)

theorem checkedCompensation_eq (cal : Cal) (meas : BMP280Meas) :
    checkedCompensation cal meas =
      Vendor.assemble square pressureQuotient cal.trimming
        meas.pressure.toInt32 meas.temperature := by
  unfold checkedCompensation Vendor.assemble Vendor.tFine Vendor.temperature
  rw [Checked.two_mul]
  simp only [Checked.mul_comm 5]
  rfl

section Quotient

variable (dividend divisor : UInt32)

theorem lt_half_iff :
    dividend < 2147483648 ↔ dividend.toNat < 2147483648 :=
  UInt32.lt_iff_toNat_lt

theorem toNat_pressureQuotient :
    (pressureQuotient dividend divisor).toNat =
      if dividend.toNat < 2147483648 then
        2 * dividend.toNat / divisor.toNat
      else dividend.toNat / divisor.toNat / 2 := by
  unfold pressureQuotient
  have bound := lt_half_iff dividend
  by_cases low : dividend.toNat < 2147483648
  · rw [if_pos (bound.mpr low), if_pos low, UInt32.toNat_div,
      UInt32.toNat_shiftLeft]
    change (dividend.toNat <<< 1) % 2 ^ 32 / _ = _
    rw [Nat.shiftLeft_eq, Nat.mod_eq_of_lt (by omega), Nat.mul_comm]
  · rw [if_neg (mt bound.mp low), if_neg low, UInt32.toNat_shiftRight,
      UInt32.toNat_div]
    exact Nat.shiftRight_eq_div_pow _ 1

theorem toNat_r :
    (Vendor.r dividend divisor).toNat =
      if dividend.toNat < 2147483648 then
        2 * dividend.toNat / divisor.toNat
      else dividend.toNat / divisor.toNat * 2 % 4294967296 := by
  unfold Vendor.r
  have bound := lt_half_iff dividend
  by_cases low : dividend.toNat < 2147483648
  · rw [if_pos (bound.mpr low), if_pos low, UInt32.toNat_div, UInt32.toNat_mul]
    change 2 * dividend.toNat % 2 ^ 32 / _ = _
    rw [Nat.mod_eq_of_lt (by omega)]
  · rw [if_neg (mt bound.mp low), if_neg low, UInt32.toNat_mul, UInt32.toNat_div]
    rfl

theorem toNat_pos_of_ne_zero (nonzero : divisor ≠ 0) : 0 < divisor.toNat := by
  apply Nat.pos_of_ne_zero
  intro zero
  exact nonzero (UInt32.toNat_inj.mp zero)

/-- The two quotients part where the vendor's is not zero. -/
theorem pressureQuotient_eq_r_iff (nonzero : divisor ≠ 0) :
    pressureQuotient dividend divisor = Vendor.r dividend divisor ↔
      dividend < 2147483648 ∨ dividend < divisor := by
  have positive := toNat_pos_of_ne_zero divisor nonzero
  have least : dividend.toNat / divisor.toNat = 0 ↔
      dividend.toNat < divisor.toNat := Nat.div_eq_zero_iff_lt positive
  have most : dividend.toNat / divisor.toNat ≤ dividend.toNat :=
    Nat.div_le_self _ _
  have bound := dividend.toNat_lt
  rw [← UInt32.toNat_inj, toNat_pressureQuotient, toNat_r, lt_half_iff,
    UInt32.lt_iff_toNat_lt, ← least]
  by_cases low : dividend.toNat < 2147483648
  · rw [if_pos low, if_pos low]
    exact ⟨fun _ => Or.inl low, fun _ => rfl⟩
  · rw [if_neg low, if_neg low, or_iff_right low]
    have carry : dividend.toNat / divisor.toNat * 2 / 4294967296 = 0 ∨
        dividend.toNat / divisor.toNat * 2 / 4294967296 = 1 := by omega
    rcases carry with none | one
    · omega
    · omega

/-- The quotient is the doubled dividend's, or one less, where that fits. -/
def QuotientAgrees : Prop :=
  2 * dividend.toNat / divisor.toNat < 4294967296 →
    (pressureQuotient dividend divisor).toNat =
        2 * dividend.toNat / divisor.toNat ∨
      (pressureQuotient dividend divisor).toNat + 1 =
        2 * dividend.toNat / divisor.toNat

/-- Doubling after the division loses at most one. -/
theorem doubled_quotient (dividend : Nat) {divisor : Nat}
    (positive : 0 < divisor) :
    2 * (dividend / divisor) ≤ 2 * dividend / divisor ∧
      2 * dividend / divisor ≤ 2 * (dividend / divisor) + 1 := by
  refine ⟨Nat.mul_div_le_mul_div_assoc 2 dividend divisor, ?_⟩
  apply Nat.le_of_lt_succ
  apply Nat.div_lt_of_lt_mul
  calc 2 * dividend
      < 2 * (divisor * (dividend / divisor + 1)) := by
        have below := Nat.lt_mul_div_succ dividend positive
        omega
    _ = divisor * (2 * (dividend / divisor) + 1).succ := by
        rw [Nat.mul_left_comm, Nat.mul_add]

/-- The upper branch halves where it should double, which shows from the first
quotient that is not zero. -/
theorem quotientAgrees_iff (nonzero : divisor ≠ 0) :
    QuotientAgrees dividend divisor ↔
      dividend < 2147483648 ∨ dividend < divisor ∨ divisor = 1 := by
  have positive := toNat_pos_of_ne_zero divisor nonzero
  have one : divisor = 1 ↔ divisor.toNat = 1 := UInt32.toNat_inj.symm
  have least : dividend.toNat / divisor.toNat = 0 ↔
      dividend.toNat < divisor.toNat := Nat.div_eq_zero_iff_lt positive
  unfold QuotientAgrees
  rw [toNat_pressureQuotient, lt_half_iff, one, UInt32.lt_iff_toNat_lt, ← least]
  obtain ⟨lower, upper⟩ := doubled_quotient dividend.toNat positive
  by_cases low : dividend.toNat < 2147483648
  · rw [if_pos low]
    exact ⟨fun _ => Or.inl low, fun _ _ => Or.inl rfl⟩
  · rw [if_neg low, or_iff_right low]
    constructor
    · intro agrees
      by_cases unit : divisor.toNat = 1
      · exact Or.inr unit
      · have fits : 2 * dividend.toNat / divisor.toNat < 4294967296 := by
          have bound := dividend.toNat_lt
          apply Nat.div_lt_of_lt_mul
          have double : 2 * 4294967296 ≤ divisor.toNat * 4294967296 :=
            Nat.mul_le_mul_right _ (by omega)
          omega
        have close := agrees fits
        omega
    · rintro (zero | unit) fits
      · omega
      · rw [unit, Nat.div_one] at fits
        omega

theorem quotientAgrees_past_seam : QuotientAgrees 2147483648 3000000000 :=
  (quotientAgrees_iff 2147483648 3000000000 (by decide)).mpr
    (Or.inr (Or.inl (by decide)))

/-- The dividend of a pressure reading of zero. -/
theorem not_quotientAgrees_past_seam :
    ¬∀ dividend divisor : UInt32, divisor ≠ 0 →
      QuotientAgrees dividend divisor := by
  intro agrees
  have past := agrees 3276800000 36477 (by decide) (by decide)
  exact absurd past (by decide)

end Quotient

section Square

variable {trimming : Trimming} {a : Checked}

theorem fits_square_iff (a : Int) :
    FitsInt32 (a * 4 * (a / 4)) ↔ -46340 ≤ a ∧ a ≤ 46341 := by
  obtain ⟨k, j, rfl, nonneg, small⟩ : ∃ k j : Int, a = 4 * k + j ∧ 0 ≤ j ∧ j < 4 :=
    ⟨a / 4, a % 4, by omega, by omega, by omega⟩
  have quotient : (4 * k + j) / 4 = k := by omega
  rw [quotient]
  unfold FitsInt32
  constructor
  · rintro ⟨-, fits⟩
    constructor
    · by_contra low
      have : k ≤ -11586 := by omega
      nlinarith
    · by_contra high
      have : 11585 ≤ k := by omega
      nlinarith
  · rintro ⟨low, high⟩
    have least : -11585 ≤ k := by omega
    have most : k ≤ 11585 := by omega
    constructor
    · nlinarith
    · nlinarith

theorem fits_quadratic_add_linear (first second : Int32) :
    FitsInt32 ((first >>> 3).toInt + (second >>> 1).toInt) := by
  have firstShifted : (first >>> 3).toInt = first.toInt / 8 :=
    @toInt_shiftRight first 3 (by decide)
  have secondShifted : (second >>> 1).toInt = second.toInt / 2 :=
    @toInt_shiftRight second 1 (by decide)
  have firstLower := first.le_toInt
  have firstUpper := first.toInt_lt
  have secondLower := second.le_toInt
  have secondUpper := second.toInt_lt
  rw [firstShifted, secondShifted]
  unfold FitsInt32
  omega

theorem toInt_factors (fits : FitsInt32 (a.value.toInt * 4)) :
    (a.value <<< 2).toInt * (a.value >>> 2).toInt =
      a.value.toInt * 4 * (a.value.toInt / 4) := by
  have left : (a.value <<< 2).toInt = (a.value.toInt * 4).bmod (2 ^ 32) :=
    @toInt_shiftLeft a.value 2 (by decide)
  have right : (a.value >>> 2).toInt = a.value.toInt / 4 :=
    @toInt_shiftRight a.value 2 (by decide)
  rw [left, right, fits.bmod_eq]

theorem square_exact_iff :
    (square a).exact = true ↔ a.exact = true ∧
      -46340 ≤ a.value.toInt ∧ a.value.toInt ≤ 46341 := by
  have left : (a <<< (2 : Checked)).exact = true ↔
      a.exact = true ∧ FitsInt32 (a.value.toInt * 4) := by
    rw [Checked.exact_shiftLeft, and_iff_left (Checked.exact_ofNat 2)]
    rfl
  have right : (a >>> (2 : Checked)).exact = true ↔ a.exact = true := by
    rw [Checked.exact_shiftRight, and_iff_left (Checked.exact_ofNat 2)]
  rw [square, Checked.exact_mul, left, right, Checked.value_shiftLeft,
    Checked.value_shiftRight]
  constructor
  · rintro ⟨⟨⟨exact, fits⟩, -⟩, product⟩
    refine ⟨exact, (fits_square_iff _).mp ?_⟩
    rw [← toInt_factors fits]
    exact product
  · rintro ⟨exact, inRange⟩
    have fits : FitsInt32 (a.value.toInt * 4) := ⟨by omega, by omega⟩
    refine ⟨⟨⟨exact, fits⟩, exact⟩, ?_⟩
    have product := (fits_square_iff _).mpr inRange
    rw [← toInt_factors fits] at product
    exact product

/-- The source's square in whole numbers, where it fits. -/
theorem toInt_square_shifted
    (inRange : -46340 ≤ a.value.toInt ∧ a.value.toInt ≤ 46341) :
    ((square a).value >>> 13).toInt =
      a.value.toInt * 4 * (a.value.toInt / 4) / 8192 := by
  have fits : FitsInt32 (a.value.toInt * 4) := ⟨by omega, by omega⟩
  have product := (fits_square_iff _).mpr inRange
  have whole : (square a).value.toInt =
      a.value.toInt * 4 * (a.value.toInt / 4) := by
    have multiplied : (square a).value.toInt =
        ((a.value <<< 2).toInt * (a.value >>> 2).toInt).bmod (2 ^ 32) :=
      Int32.toInt_mul _ _
    rw [multiplied, toInt_factors fits, product.bmod_eq]
  rw [← whole]
  exact @toInt_shiftRight (square a).value 13 (by decide)

end Square

section Assembled

variable {trimming : Trimming} {squared a c : Checked}

theorem c_exact_iff :
    (Vendor.c trimming squared a).exact = true ↔
      squared.exact = true ∧ a.exact = true ∧
        FitsInt32 (trimming.p3.toInt * (squared.value >>> 13).toInt) ∧
        FitsInt32 (trimming.p2.toInt * a.value.toInt) := by
  have sum := fits_quadratic_add_linear
    (trimming.p3 * (squared.value >>> 13)) (trimming.p2 * a.value)
  simp only [Vendor.c, Checked.exact_shiftRight, Checked.exact_add,
    Checked.exact_mul, Checked.exact_of, Checked.exact_ofNat,
    Checked.value_shiftRight, Checked.value_mul, Checked.value_of,
    Checked.value_ofNat, and_true, true_and]
  constructor
  · rintro ⟨⟨⟨exact, quadratic⟩, linear, product⟩, -⟩
    exact ⟨exact, linear, quadratic, product⟩
  · rintro ⟨exact, linear, quadratic, product⟩
    exact ⟨⟨⟨exact, quadratic⟩, linear, product⟩, sum⟩

theorem d_exact_iff :
    (Vendor.d trimming c).exact = true ↔ c.exact = true ∧
      FitsInt32 (32768 + c.value.toInt) ∧
        FitsInt32 ((32768 + c.value).toInt * trimming.p1.toInt) := by
  simp only [Vendor.d, Checked.exact_shiftRight, Checked.exact_add,
    Checked.exact_mul, Checked.exact_of, Checked.exact_ofNat,
    Checked.value_add, Checked.value_of, Checked.value_ofNat, and_true,
    true_and, and_assoc]
  rfl

theorem c_bounds :
    -8192 ≤ (Vendor.c trimming squared a).value.toInt ∧
      (Vendor.c trimming squared a).value.toInt ≤ 8191 := by
  obtain ⟨terms, shifted⟩ : ∃ terms : Int32,
      (Vendor.c trimming squared a).value = terms >>> 18 := ⟨_, rfl⟩
  have quotient : (terms >>> 18).toInt = terms.toInt / 262144 :=
    @toInt_shiftRight terms 18 (by decide)
  have lower := terms.le_toInt
  have upper := terms.toInt_lt
  rw [shifted, quotient]
  omega

/-- The product with `P1` wraps exactly where `d` comes out negative. -/
theorem d_nonneg_iff (p1 : 0 ≤ trimming.p1.toInt ∧ trimming.p1.toInt < 65536)
    (bounds : -8192 ≤ c.value.toInt ∧ c.value.toInt ≤ 8191) :
    0 ≤ (Vendor.d trimming c).value.toInt ↔
      FitsInt32 ((32768 + c.value).toInt * trimming.p1.toInt) := by
  have sum : (32768 + c.value).toInt = 32768 + c.value.toInt := by
    have fits : FitsInt32 (32768 + c.value.toInt) := ⟨by omega, by omega⟩
    rw [Int32.toInt_add, ← fits.bmod_eq]
    rfl
  have quotient : (Vendor.d trimming c).value.toInt =
      ((32768 + c.value) * trimming.p1).toInt / 32768 :=
    @toInt_shiftRight ((32768 + c.value) * trimming.p1) 15 (by decide)
  have least : 0 ≤ (32768 + c.value).toInt * trimming.p1.toInt :=
    Int.mul_nonneg (by omega) p1.1
  have most : (32768 + c.value).toInt * trimming.p1.toInt ≤ 40959 * 65535 :=
    Int.mul_le_mul (by omega) (by omega) p1.1 (by decide)
  rw [quotient, Int32.toInt_mul]
  generalize (32768 + c.value).toInt * trimming.p1.toInt = product at least most
  constructor
  · intro nonnegative
    refine ⟨by omega, ?_⟩
    by_contra high
    have wrapped : product.bmod (2 ^ 32) = product - 2 ^ 32 := by
      rw [← Int.sub_bmod_right]
      exact Int.bmod_eq_of_le (by omega) (by omega)
    omega
  · intro fits
    rw [fits.bmod_eq]
    omega

variable {square : Checked → Checked} {quotient : UInt32 → UInt32 → UInt32}
variable {adcP adcT : Int32}

/-- What it takes for every signed operation to stay in range. -/
theorem assemble_snd_iff :
    (Vendor.assemble square quotient trimming adcP adcT).2 = true ↔
      ((Vendor.temperature (Vendor.tFine trimming adcT)).exact = true ∧
        (Vendor.b trimming (Vendor.aAt trimming adcT)).exact = true ∧
        (Vendor.dAt square trimming adcT).exact = true) ∧
      ((Vendor.dAt square trimming adcT).value ≠ 0 →
        ((1048576 : Checked) - (adcP : Checked)).exact = true ∧
        (Vendor.pressure trimming (quotient (Vendor.qAt trimming adcP adcT)
          (Vendor.dAt square trimming adcT).value.toUInt32)).exact = true) := by
  have unfolded : Vendor.assemble square quotient trimming adcP adcT =
      if (Vendor.dAt square trimming adcT).value = 0 then _ else _ := rfl
  rw [unfolded]
  by_cases zero : (Vendor.dAt square trimming adcT).value = 0
  · rw [if_pos zero]
    simp only [Bool.and_eq_true]
    exact ⟨fun exact => ⟨⟨exact.1.1, exact.1.2, exact.2⟩,
      fun nonzero => absurd zero nonzero⟩, fun both =>
      ⟨⟨both.1.1, both.1.2.1⟩, both.1.2.2⟩⟩
  · rw [if_neg zero]
    simp only [Bool.and_eq_true]
    exact ⟨fun exact => ⟨⟨exact.1.1.1.1, exact.1.1.1.2, exact.1.1.2⟩,
      fun _ => ⟨exact.1.2, exact.2⟩⟩, fun both =>
      ⟨⟨⟨⟨both.1.1, both.1.2.1⟩, both.1.2.2⟩, (both.2 zero).1⟩,
        (both.2 zero).2⟩⟩

end Assembled

section Spared

variable (trimming : Trimming) (adcP adcT : Int32)

/-- The square of the source and the product with `P3` after it fit. -/
def SquareFits (trimming : Trimming) (a : Int) : Prop :=
  (-46340 ≤ a ∧ a ≤ 46341) ∧
    FitsInt32 (trimming.p3.toInt * (a * 4 * (a / 4) / 8192))

instance (trimming : Trimming) (a : Int) : Decidable (SquareFits trimming a) :=
  inferInstanceAs (Decidable (_ ∧ _))

/-- The two ways in which the source departs from the vendor's algorithm make no
difference, and its square fits wherever the vendor's operations do. -/
structure Spared : Prop where
  divisor : (Vendor.dAt square trimming adcT).value =
    (Vendor.dAt Vendor.square trimming adcT).value
  quotient :
    (Vendor.dAt Vendor.square trimming adcT).value = 0 ∨
      Vendor.qAt trimming adcP adcT < 2147483648 ∨
      Vendor.qAt trimming adcP adcT <
        (Vendor.dAt Vendor.square trimming adcT).value.toUInt32
  product : (Vendor.compensate trimming adcP adcT).2 = true →
    SquareFits trimming (Vendor.aAt trimming adcT).value.toInt

variable {trimming adcP adcT}

theorem Spared.quotient_eq (spared : Spared trimming adcP adcT)
    (nonzero : (Vendor.dAt Vendor.square trimming adcT).value ≠ 0) :
    pressureQuotient (Vendor.qAt trimming adcP adcT)
        (Vendor.dAt Vendor.square trimming adcT).value.toUInt32 =
      Vendor.r (Vendor.qAt trimming adcP adcT)
        (Vendor.dAt Vendor.square trimming adcT).value.toUInt32 := by
  have divisor :
      (Vendor.dAt Vendor.square trimming adcT).value.toUInt32 ≠ 0 := by
    intro zero
    exact nonzero (congrArg UInt32.toInt32 zero)
  exact (pressureQuotient_eq_r_iff _ _ divisor).mpr
    (spared.quotient.resolve_left nonzero)

theorem Spared.result (spared : Spared trimming adcP adcT) :
    (Vendor.assemble square pressureQuotient trimming adcP adcT).1 =
      (Vendor.compensate trimming adcP adcT).1 := by
  have unfolded (square : Checked → Checked)
      (quotient : UInt32 → UInt32 → UInt32) :
      (Vendor.assemble square quotient trimming adcP adcT).1 =
        if (Vendor.dAt square trimming adcT).value = 0 then
          { pressure := 0
            temperature :=
              (Vendor.temperature (Vendor.tFine trimming adcT)).value }
        else
          { pressure := (Vendor.pressure trimming
              (quotient (Vendor.qAt trimming adcP adcT) (Vendor.dAt square
                trimming adcT).value.toUInt32)).value.toUInt32
            temperature :=
              (Vendor.temperature (Vendor.tFine trimming adcT)).value } :=
    apply_ite Prod.fst _ _ _
  rw [Vendor.compensate_eq, unfolded, unfolded, spared.divisor]
  split
  next => rfl
  next nonzero => rw [spared.quotient_eq nonzero]

theorem Spared.inRange (spared : Spared trimming adcP adcT)
    (p1 : 0 ≤ trimming.p1.toInt ∧ trimming.p1.toInt < 65536)
    (exact : (Vendor.compensate trimming adcP adcT).2 = true) :
    (Vendor.assemble square pressureQuotient trimming adcP adcT).2 = true := by
  obtain ⟨bounds, product⟩ := spared.product exact
  rw [Vendor.compensate_eq, assemble_snd_iff] at exact
  obtain ⟨⟨temperature, b, d⟩, rest⟩ := exact
  rw [Vendor.dAt, d_exact_iff, c_exact_iff] at d
  obtain ⟨⟨-, a, -, linear⟩, -, scaled⟩ := d
  have nonnegative := (d_nonneg_iff p1 c_bounds).mpr scaled
  have divisor := spared.divisor
  rw [Vendor.dAt, Vendor.dAt] at divisor
  rw [← divisor] at nonnegative
  rw [assemble_snd_iff]
  refine ⟨⟨temperature, b, ?_⟩, ?_⟩
  · rw [Vendor.dAt, d_exact_iff, c_exact_iff]
    refine ⟨⟨square_exact_iff.mpr ⟨a, bounds⟩, a, ?_, linear⟩, ?_,
      (d_nonneg_iff p1 c_bounds).mp nonnegative⟩
    · rw [toInt_square_shifted bounds]
      exact product
    · have sum := @c_bounds trimming
        (square (Vendor.aAt trimming adcT)) (Vendor.aAt trimming adcT)
      exact ⟨by omega, by omega⟩
  · rw [spared.divisor]
    intro nonzero
    rw [spared.quotient_eq nonzero]
    exact rest nonzero

/-- The bound on the square is forced by the operations staying in range. -/
theorem squareFits_of_inRange
    (inRange :
      (Vendor.assemble square pressureQuotient trimming adcP adcT).2 = true) :
    SquareFits trimming (Vendor.aAt trimming adcT).value.toInt := by
  rw [assemble_snd_iff] at inRange
  obtain ⟨⟨-, -, d⟩, -⟩ := inRange
  rw [Vendor.dAt, d_exact_iff, c_exact_iff, square_exact_iff] at d
  obtain ⟨⟨⟨-, bounds⟩, -, product, -⟩, -⟩ := d
  rw [toInt_square_shifted bounds] at product
  exact ⟨bounds, product⟩

end Spared

section Delivered

variable (calibration : Vendor.Calibration) (registers : Vendor.Registers)

/-- The transfer that brings these six bytes. -/
def delivered : I2C.Transfer measDataSize where
  writeStatus := 0
  masterRead :=
    { status := 0
      received := registers.toList
      fits := by simp
      complete := fun _ => by simp }

def rawMeas : BMP280Meas where
  pressure :=
    merge (registers.getD 0 0) (registers.getD 1 0) (registers.getD 2 0)
  temperature := (merge (registers.getD 3 0) (registers.getD 4 0)
    (registers.getD 5 0)).toInt32

/-- The measurement is the vendor's, and no signed operation overflows unless
one of the vendor's does. -/
structure Faithful : Prop where
  result : ∀ (stack : Vector UInt8 measDataSize) (state : State)
    (i2c : I2C.State), state.cal = ⟨calibration⟩ →
      (getMeasurement (delivered registers) stack state i2c).1 =
        (Vendor.compensate (Vendor.trimming calibration)
          (Vendor.adcP registers) (Vendor.adcT registers)).1
  inRange :
    (Vendor.compensate (Vendor.trimming calibration)
      (Vendor.adcP registers) (Vendor.adcT registers)).2 = true →
      (checkedCompensation ⟨calibration⟩ (rawMeas registers)).2 = true

theorem checked_rawMeas :
    checkedCompensation ⟨calibration⟩ (rawMeas registers) =
      Vendor.assemble square pressureQuotient (Vendor.trimming calibration)
        (Vendor.adcP registers) (Vendor.adcT registers) := by
  rw [checkedCompensation_eq, trimming_eq]
  simp only [rawMeas, merge_eq]
  rfl

theorem p1_bounds :
    0 ≤ (Vendor.trimming calibration).p1.toInt ∧
      (Vendor.trimming calibration).p1.toInt < 65536 := by
  have bound : Vendor.littleEndian calibration 3 < 65536 := by
    have low := (calibration.getD (2 * 3) 0).toNat_lt
    have high := (calibration.getD (2 * 3 + 1) 0).toNat_lt
    unfold Vendor.littleEndian
    omega
  have whole : (Vendor.trimming calibration).p1.toInt =
      Vendor.littleEndian calibration 3 :=
    Int32.toInt_ofInt_of_le (by omega) (by omega)
  rw [whole]
  omega

theorem store_delivered (stack : Vector UInt8 measDataSize) :
    (delivered registers).masterRead.store stack = registers := by
  ext index inRange
  simp [I2C.MasterRead.store, delivered]

theorem getMeasurement_delivered (stack : Vector UInt8 measDataSize)
    {state : State} (i2c : I2C.State) (stored : state.cal = ⟨calibration⟩) :
    (getMeasurement (delivered registers) stack state i2c).1 =
      computeCompensation ⟨calibration⟩ (rawMeas registers) := by
  have read : (readMeasurementRegs (delivered registers) stack state i2c).1 =
      { state with meas := rawMeas registers } := by
    have buffer : (I2C.read (delivered registers) stack i2c).1 = registers :=
      store_delivered registers stack
    simp (disch := decide) only [readMeasurementRegs, buffer, rawMeas,
      getD_of_lt]
  simp only [getMeasurement, read, stored]

end Delivered

/-- Where the two departures of the source make no difference, its measurement
is the vendor's and stays in range with it. -/
theorem faithful_of_spared (calibration : Vendor.Calibration)
    (registers : Vendor.Registers)
    (spared : Spared (Vendor.trimming calibration) (Vendor.adcP registers)
      (Vendor.adcT registers)) : Faithful calibration registers where
  result := by
    intro stack state i2c stored
    rw [getMeasurement_delivered calibration registers stack i2c stored,
      ← checkedCompensation_fst, checked_rawMeas]
    exact spared.result
  inRange := by
    intro exact
    rw [checked_rawMeas]
    exact spared.inRange (p1_bounds calibration) exact

/-- Keeping the operations in range takes the bound on the square. -/
theorem Faithful.squareFits {calibration : Vendor.Calibration}
    {registers : Vendor.Registers} (faithful : Faithful calibration registers)
    (exact : (Vendor.compensate (Vendor.trimming calibration)
      (Vendor.adcP registers) (Vendor.adcT registers)).2 = true) :
    SquareFits (Vendor.trimming calibration)
      (Vendor.aAt (Vendor.trimming calibration)
        (Vendor.adcT registers)).value.toInt := by
  have inRange := faithful.inRange exact
  rw [checked_rawMeas] at inRange
  exact squareFits_of_inRange inRange

/-- A sensor's calibration words. -/
def sampleCalibration : Vendor.Calibration :=
  #v[0x70, 0x6B, 0x43, 0x67, 0x18, 0xFC, 0x7D, 0x8E, 0x43, 0xD6, 0xD0, 0x0B,
    0x27, 0x0B, 0x8C, 0x00, 0xF9, 0xFF, 0x8C, 0x3C, 0xF8, 0xC6, 0x70, 0x17]

theorem faithful_near_25_degrees :
    Faithful sampleCalibration #v[0x65, 0x5A, 0xC0, 0x7E, 0xED, 0x00] :=
  faithful_of_spared _ _ ⟨by decide, by decide, by decide⟩

/-- At 18.85 degrees the pressure comes out 126 Pa too low. -/
theorem not_faithful_below_25_degrees :
    ¬Faithful sampleCalibration #v[0x65, 0x5A, 0xC0, 0x7A, 0x12, 0x00] := by
  intro faithful
  have result := faithful.result (Vector.replicate _ 0)
    { cal := ⟨sampleCalibration⟩, meas := ⟨0, 0⟩ } I2C.State.initial rfl
  revert result
  decide

end BMP280

end QuarkMeteoStation
