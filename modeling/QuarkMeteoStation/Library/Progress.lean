import QuarkMeteoStation.Library.Machine

namespace Library

universe u v w

/-! A machine that finishes because a measure of what is left falls. The inputs
come in rounds, each of which lets every party move at least once, in any
order. -/

namespace Machine

variable {State : Type u} {Input : Type v} {Output : Type w}

/-- In every unfinished state some party can move, by any of its inputs, and
stays able to until it does or another move has been made. -/
structure Progress (machine : Machine State Input Output)
    (Done : State → Prop) (measure : State → Nat) (Invariant : State → Prop)
    where
  party : State → Input → Prop
  preserved : ∀ state input, Invariant state →
    Invariant (machine.step state input)
  moves : ∀ state input, Invariant state → ¬Done state → party state input →
    measure (machine.step state input) < measure state
  idles : ∀ state input, Invariant state →
    measure (machine.step state input) < measure state ∨
      machine.step state input = state
  finished : ∀ state, Invariant state → measure state = 0 → Done state
  stays : ∀ state input, Invariant state → Done state →
    Done (machine.step state input)

namespace Progress

variable {machine : Machine State Input Output} {Done : State → Prop}
variable {measure : State → Nat} {Invariant : State → Prop}

theorem stays_exec (progress : machine.Progress Done measure Invariant)
    {state : State} (invariant : Invariant state) (done : Done state)
    (inputs : List Input) : Done (machine.exec state inputs) := by
  induction inputs generalizing state with
  | nil => exact done
  | cons input inputs induction =>
      exact induction (progress.preserved state input invariant)
        (progress.stays state input invariant done)

theorem measure_exec_le (progress : machine.Progress Done measure Invariant)
    {state : State} (invariant : Invariant state) (inputs : List Input) :
    measure (machine.exec state inputs) ≤ measure state := by
  induction inputs generalizing state with
  | nil => exact Nat.le_refl _
  | cons input inputs induction =>
      have rest := induction (progress.preserved state input invariant)
      rcases progress.idles state input invariant with falls | same
      · exact Nat.le_trans rest (Nat.le_of_lt falls)
      · rw [same] at rest
        rw [exec_cons, same]
        exact rest

/-- A round with a move of the party that can move brings the end nearer. -/
theorem measure_round_lt (progress : machine.Progress Done measure Invariant)
    {state : State} (invariant : Invariant state) (unfinished : ¬Done state)
    {round : List Input}
    (takes : ∃ input ∈ round, progress.party state input) :
    measure (machine.exec state round) < measure state := by
  obtain ⟨taken, member, party⟩ := takes
  induction round with
  | nil => cases member
  | cons input round induction =>
      rcases progress.idles state input invariant with falls | same
      · exact Nat.lt_of_le_of_lt (progress.measure_exec_le
          (progress.preserved state input invariant) round) falls
      · rw [exec_cons, same]
        rcases List.mem_cons.mp member with now | later
        · have falls := progress.moves state taken invariant unfinished party
          rw [now, same] at falls
          exact absurd falls (Nat.lt_irrefl _)
        · exact induction later

theorem done_of_rounds (progress : machine.Progress Done measure Invariant)
    {state : State} (invariant : Invariant state) {rounds : List (List Input)}
    (fair : ∀ round ∈ rounds, ∀ state,
      ∃ input ∈ round, progress.party state input)
    (enough : measure state ≤ rounds.length) :
    Done (machine.exec state rounds.flatten) := by
  induction rounds generalizing state with
  | nil =>
      exact progress.finished state invariant
        (Nat.le_zero.mp enough)
  | cons round rounds induction =>
      have kept : Invariant (machine.exec state round) :=
        machine.invariant Invariant progress.preserved state invariant round
      rw [List.flatten_cons, exec_append]
      by_cases done : Done state
      · exact progress.stays_exec kept
          (progress.stays_exec invariant done round) rounds.flatten
      · have falls := progress.measure_round_lt invariant done
          (fair round List.mem_cons_self state)
        apply induction kept
          (fun later member => fair later (List.mem_cons_of_mem round member))
        rw [List.length_cons] at enough
        omega

end Progress

end Machine

end Library
