import Mathlib.Algebra.Order.Ring.Int

namespace Library

def FitsInt32 (value : Int) : Prop :=
  -2147483648 ≤ value ∧ value ≤ 2147483647

instance (value : Int) : Decidable (FitsInt32 value) :=
  inferInstanceAs (Decidable (_ ∧ _))

/-- A signed word that knows whether every operation it came from stayed in
range. -/
@[ext] structure Checked where
  value : Int32
  exact : Bool
  deriving DecidableEq, Repr

namespace Checked

@[coe] def of (value : Int32) : Checked := ⟨value, true⟩

instance : Coe Int32 Checked := ⟨of⟩

instance (number : Nat) : OfNat Checked number := ⟨of (Int32.ofNat number)⟩

instance : Add Checked where
  add first second :=
    { value := first.value + second.value
      exact := first.exact && second.exact &&
        decide (FitsInt32 (first.value.toInt + second.value.toInt)) }

instance : Sub Checked where
  sub first second :=
    { value := first.value - second.value
      exact := first.exact && second.exact &&
        decide (FitsInt32 (first.value.toInt - second.value.toInt)) }

instance : Mul Checked where
  mul first second :=
    { value := first.value * second.value
      exact := first.exact && second.exact &&
        decide (FitsInt32 (first.value.toInt * second.value.toInt)) }

instance : ShiftLeft Checked where
  shiftLeft checked amount :=
    { value := checked.value <<< amount.value
      exact := checked.exact && amount.exact && decide
        (FitsInt32 (checked.value.toInt * 2 ^ amount.value.toInt.toNat)) }

/-- An arithmetic shift to the right cannot leave the range. -/
instance : ShiftRight Checked where
  shiftRight checked amount :=
    { value := checked.value >>> amount.value
      exact := checked.exact && amount.exact }

variable (first second : Checked) (value : Int32)

@[simp] theorem value_of : (of value).value = value := rfl

@[simp] theorem exact_of : (of value).exact = true := rfl

@[simp] theorem value_ofNat (number : Nat) :
    (no_index (OfNat.ofNat number : Checked)).value = OfNat.ofNat number := rfl

@[simp] theorem exact_ofNat (number : Nat) :
    (no_index (OfNat.ofNat number : Checked)).exact = true := rfl

@[simp] theorem value_add :
    (first + second).value = first.value + second.value := rfl

@[simp] theorem value_mul :
    (first * second).value = first.value * second.value := rfl

@[simp] theorem value_shiftLeft :
    (first <<< second).value = first.value <<< second.value := rfl

@[simp] theorem value_shiftRight :
    (first >>> second).value = first.value >>> second.value := rfl

@[simp] theorem exact_add : (first + second).exact = true ↔
    (first.exact = true ∧ second.exact = true) ∧
      FitsInt32 (first.value.toInt + second.value.toInt) := by
  change (_ && _ && decide _) = true ↔ _
  rw [Bool.and_eq_true, Bool.and_eq_true, decide_eq_true_iff]

@[simp] theorem exact_mul : (first * second).exact = true ↔
    (first.exact = true ∧ second.exact = true) ∧
      FitsInt32 (first.value.toInt * second.value.toInt) := by
  change (_ && _ && decide _) = true ↔ _
  rw [Bool.and_eq_true, Bool.and_eq_true, decide_eq_true_iff]

@[simp] theorem exact_shiftLeft : (first <<< second).exact = true ↔
    (first.exact = true ∧ second.exact = true) ∧
      FitsInt32 (first.value.toInt * 2 ^ second.value.toInt.toNat) := by
  change (_ && _ && decide _) = true ↔ _
  rw [Bool.and_eq_true, Bool.and_eq_true, decide_eq_true_iff]

@[simp] theorem exact_shiftRight : (first >>> second).exact = true ↔
    first.exact = true ∧ second.exact = true := by
  change (_ && _) = true ↔ _
  rw [Bool.and_eq_true]

protected theorem mul_comm : first * second = second * first := by
  change Checked.mk _ _ = Checked.mk _ _
  rw [Int32.mul_comm, Bool.and_comm first.exact, Int.mul_comm]

end Checked

private theorem shiftAmount {amount : Nat} (short : amount < 32) :
    ((Int32.ofNat amount).toBitVec.smod 32).toNat = amount := by
  have each : ∀ amount : Fin 32,
      ((Int32.ofNat amount).toBitVec.smod 32).toNat = amount := by decide
  exact each ⟨amount, short⟩

/-- A shift to the right is a division that rounds down. -/
theorem toInt_shiftRight (value : Int32) {amount : Nat} (short : amount < 32) :
    (value >>> Int32.ofNat amount).toInt = value.toInt / 2 ^ amount := by
  have shifted : (value >>> Int32.ofNat amount).toBitVec =
      value.toBitVec.sshiftRight
        ((Int32.ofNat amount).toBitVec.smod 32).toNat := rfl
  rw [← Int32.toInt_toBitVec, shifted, shiftAmount short,
    BitVec.toInt_sshiftRight, Int32.toInt_toBitVec, Int.shiftRight_eq_div_pow]
  norm_cast

theorem toInt_shiftLeft (value : Int32) {amount : Nat} (short : amount < 32) :
    (value <<< Int32.ofNat amount).toInt =
      (value.toInt * 2 ^ amount).bmod (2 ^ 32) := by
  have shifted : (value <<< Int32.ofNat amount).toBitVec =
      value.toBitVec <<<
        ((Int32.ofNat amount).toBitVec.smod 32).toNat := rfl
  rw [← Int32.toInt_toBitVec, shifted, shiftAmount short,
    BitVec.toInt_shiftLeft, Nat.shiftLeft_eq, ← Int32.toInt_toBitVec,
    BitVec.toInt_eq_toNat_bmod, Int.bmod_mul_bmod]
  norm_cast

theorem FitsInt32.bmod_eq {value : Int} (fits : FitsInt32 value) :
    value.bmod (2 ^ 32) = value := by
  unfold FitsInt32 at fits
  exact Int.bmod_eq_of_le (by omega) (by omega)

theorem Checked.two_mul (checked : Checked) :
    (2 : Checked) * checked = checked <<< (1 : Checked) := by
  have value : (2 : Int32) * checked.value = checked.value <<< 1 := by
    apply Int32.toInt_inj.mp
    rw [Int32.toInt_mul, Int.mul_comm]
    exact (@toInt_shiftLeft checked.value 1 (by decide)).symm
  apply Checked.ext value
  rw [Bool.eq_iff_iff, exact_mul, exact_shiftLeft, Int.mul_comm]
  exact and_congr_left' and_comm

end Library
