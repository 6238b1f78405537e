import Mathlib.Algebra.Order.Ring.Nat

namespace Library

universe u

/-! A line that shows one level after another, each for a time of its own, and a
level of rest when all of them are over. -/

namespace Waveform

variable {Level : Type u} (rest : Level)

def duration (wave : List (Level × Nat)) : Nat :=
  (wave.map Prod.snd).sum

def levelAt : List (Level × Nat) → Nat → Level
  | [], _ => rest
  | (level, lasts) :: wave, time =>
      if time < lasts then level else levelAt wave (time - lasts)

@[simp] theorem duration_nil : duration ([] : List (Level × Nat)) = 0 := rfl

@[simp] theorem duration_cons (piece : Level × Nat)
    (wave : List (Level × Nat)) :
    duration (piece :: wave) = piece.2 + duration wave := by
  simp [duration]

@[simp] theorem duration_append (first second : List (Level × Nat)) :
    duration (first ++ second) = duration first + duration second := by
  simp [duration]

variable {rest} {wave : List (Level × Nat)} {level : Level} {lasts : Nat}

theorem levelAt_of_lt {time : Nat} (within : time < lasts) :
    levelAt rest ((level, lasts) :: wave) time = level :=
  if_pos within

theorem levelAt_of_le {time : Nat} (ended : lasts ≤ time) :
    levelAt rest ((level, lasts) :: wave) time =
      levelAt rest wave (time - lasts) :=
  if_neg (Nat.not_lt.mpr ended)

/-- Once the first part is over, the line shows the second. -/
theorem levelAt_append (first second : List (Level × Nat)) (time : Nat) :
    levelAt rest (first ++ second) (duration first + time) =
      levelAt rest second time := by
  induction first with
  | nil => rw [List.nil_append, duration_nil, Nat.zero_add]
  | cons piece first induction =>
      have ended : piece.2 ≤ piece.2 + (duration first + time) :=
        Nat.le_add_right _ _
      rw [List.cons_append, duration_cons, Nat.add_assoc, levelAt_of_le ended,
        Nat.add_sub_cancel_left, induction]

end Waveform

end Library
