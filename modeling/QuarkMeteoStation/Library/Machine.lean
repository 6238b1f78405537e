import Mathlib.Data.List.Induction

namespace Library

universe u v w

/-- A deterministic machine: every input moves the state and emits at most one
observable output. -/
structure Machine (State : Type u) (Input : Type v) (Output : Type w) where
  start : State → Prop
  step : State → Input → State
  output : State → Input → Option Output

section Stretches

variable {Output : Type w} (mark : Output → Bool)

/-- The stretches of outputs that a marked output ended, oldest first, and the
open stretch after the last marked output. -/
def splitAfter (outputs : List Output) :
    List (List Output) × List Output :=
  outputs.foldl
    (fun (closed, current) output =>
      if mark output then (closed ++ [current], [])
      else (closed, current ++ [output]))
    ([], [])

def closedStretches (outputs : List Output) : List (List Output) :=
  (splitAfter mark outputs).1

/-- The outputs after the last one that satisfies `mark`, or all of them when
none does. -/
def sinceLast (outputs : List Output) : List Output :=
  (splitAfter mark outputs).2

@[simp] theorem sinceLast_nil : sinceLast mark [] = [] := rfl

@[simp] theorem closedStretches_nil : closedStretches mark [] = [] := rfl

@[simp] theorem sinceLast_concat (outputs : List Output) (output : Output) :
    sinceLast mark (outputs ++ [output]) =
      if mark output then [] else sinceLast mark outputs ++ [output] := by
  simp only [sinceLast, splitAfter, List.foldl_append, List.foldl_cons,
    List.foldl_nil]
  split <;> rfl

@[simp] theorem closedStretches_concat (outputs : List Output)
    (output : Output) :
    closedStretches mark (outputs ++ [output]) =
      if mark output then closedStretches mark outputs ++
        [sinceLast mark outputs] else closedStretches mark outputs := by
  simp only [closedStretches, sinceLast, splitAfter, List.foldl_append,
    List.foldl_cons, List.foldl_nil]
  split <;> rfl

theorem sinceLast_append_of_unmarked (outputs later : List Output)
    (unmarked : ∀ output ∈ later, mark output = false) :
    sinceLast mark (outputs ++ later) = sinceLast mark outputs ++ later := by
  induction later using List.reverseRecOn with
  | nil => simp
  | append_singleton initial last induction =>
      have lastUnmarked : mark last = false := unmarked last (by simp)
      have initialUnmarked : ∀ output ∈ initial, mark output = false :=
        fun output member => unmarked output (by simp [member])
      rw [← List.append_assoc, sinceLast_concat, lastUnmarked,
        induction initialUnmarked]
      simp

theorem closedStretches_append_of_unmarked (outputs later : List Output)
    (unmarked : ∀ output ∈ later, mark output = false) :
    closedStretches mark (outputs ++ later) = closedStretches mark outputs := by
  induction later using List.reverseRecOn with
  | nil => simp
  | append_singleton initial last induction =>
      have lastUnmarked : mark last = false := unmarked last (by simp)
      rw [← List.append_assoc, closedStretches_concat, lastUnmarked]
      exact induction fun output member => unmarked output (by simp [member])

theorem sinceLast_after_mark (before later : List Output) (marked : Output)
    (isMarked : mark marked = true)
    (unmarked : ∀ output ∈ later, mark output = false) :
    sinceLast mark (before ++ marked :: later) = later := by
  have regrouped : before ++ marked :: later = (before ++ [marked]) ++ later := by
    simp
  rw [regrouped, sinceLast_append_of_unmarked mark _ later unmarked,
    sinceLast_concat, isMarked]
  simp

end Stretches

namespace Machine

variable {State : Type u} {Input : Type v} {Output : Type w}
variable (machine : Machine State Input Output)

def exec : State → List Input → State
  | state, [] => state
  | state, input :: rest => exec (machine.step state input) rest

def trace : State → List Input → List Output
  | _, [] => []
  | state, input :: rest =>
      (machine.output state input).toList ++
        trace (machine.step state input) rest

@[simp] theorem exec_nil (state : State) : machine.exec state [] = state := rfl

@[simp] theorem trace_nil (state : State) : machine.trace state [] = [] := rfl

@[simp] theorem exec_cons (state : State) (input : Input) (rest : List Input) :
    machine.exec state (input :: rest) =
      machine.exec (machine.step state input) rest := rfl

@[simp] theorem trace_cons (state : State) (input : Input) (rest : List Input) :
    machine.trace state (input :: rest) =
      (machine.output state input).toList ++
        machine.trace (machine.step state input) rest := rfl

theorem exec_append (state : State) (first second : List Input) :
    machine.exec state (first ++ second) =
      machine.exec (machine.exec state first) second := by
  induction first generalizing state with
  | nil => rfl
  | cons input rest induction => exact induction (machine.step state input)

theorem trace_append (state : State) (first second : List Input) :
    machine.trace state (first ++ second) =
      machine.trace state first ++
        machine.trace (machine.exec state first) second := by
  induction first generalizing state with
  | nil => rfl
  | cons input rest induction =>
      simp only [List.cons_append, trace_cons, exec_cons]
      rw [induction, List.append_assoc]

theorem exec_concat (state : State) (inputs : List Input) (last : Input) :
    machine.exec state (inputs ++ [last]) =
      machine.step (machine.exec state inputs) last := by
  rw [exec_append]
  rfl

theorem trace_concat (state : State) (inputs : List Input) (last : Input) :
    machine.trace state (inputs ++ [last]) =
      machine.trace state inputs ++
        (machine.output (machine.exec state inputs) last).toList := by
  rw [trace_append]
  simp

/-- A property of the outputs so far and the state that holds at the start and
that every step on an admitted input preserves holds after every run whose
inputs are all admitted. -/
theorem historyInvariant
    (admitted : Input → Prop) (Invariant : List Output → State → Prop)
    (preserved : ∀ history state input, admitted input →
      Invariant history state →
      Invariant (history ++ (machine.output state input).toList)
        (machine.step state input))
    (initial : State) (base : Invariant [] initial)
    (inputs : List Input) (allAdmitted : ∀ input ∈ inputs, admitted input) :
    Invariant (machine.trace initial inputs) (machine.exec initial inputs) := by
  induction inputs using List.reverseRecOn with
  | nil => exact base
  | append_singleton earlier last induction =>
      have earlierAdmitted : ∀ input ∈ earlier, admitted input :=
        fun input member => allAdmitted input (by simp [member])
      rw [trace_concat, exec_concat]
      exact preserved _ _ last (allAdmitted last (by simp))
        (induction earlierAdmitted)

theorem invariant (Invariant : State → Prop)
    (preserved : ∀ state input, Invariant state →
      Invariant (machine.step state input))
    (initial : State) (base : Invariant initial) (inputs : List Input) :
    Invariant (machine.exec initial inputs) :=
  machine.historyInvariant (fun _ => True) (fun _ state => Invariant state)
    (fun _ state input _ holds => preserved state input holds)
    initial base inputs (fun _ _ => trivial)

/-- A measure that a marked output clears, and that rises by no more than the
counted outputs of a step. -/
structure Counted (measure : State → Nat) (mark counted : Output → Bool)
    (Invariant : State → Prop) : Prop where
  preserved : ∀ state input, Invariant state →
    Invariant (machine.step state input)
  cleared : ∀ state input output, Invariant state →
    machine.output state input = some output → mark output = true →
    measure (machine.step state input) = 0
  rises : ∀ state input, Invariant state →
    measure (machine.step state input) ≤ measure state +
      (machine.output state input).toList.countP counted

section Counted

variable {machine} {measure : State → Nat} {mark counted : Output → Bool}
variable {Invariant : State → Prop}

theorem Counted.step (counting : machine.Counted measure mark counted Invariant)
    {history : List Output} {state : State} (input : Input)
    (invariant : Invariant state)
    (bounded : measure state ≤ (sinceLast mark history).countP counted) :
    measure (machine.step state input) ≤ (sinceLast mark
      (history ++ (machine.output state input).toList)).countP counted := by
  have risen := counting.rises state input invariant
  cases emission : machine.output state input with
  | none =>
      rw [emission] at risen
      simpa using Nat.le_trans risen bounded
  | some output =>
      rw [emission] at risen
      simp only [Option.toList_some, sinceLast_concat]
      by_cases marked : mark output = true
      · rw [if_pos marked,
          counting.cleared state input output invariant emission marked]
        exact Nat.zero_le _
      · rw [if_neg marked, List.countP_append]
        exact Nat.le_trans risen (Nat.add_le_add_right bounded _)

/-- The measure never exceeds what was counted since the last marked output. -/
theorem Counted.le_count
    (counting : machine.Counted measure mark counted Invariant)
    (initial : State) (base : Invariant initial) (zero : measure initial = 0)
    (inputs : List Input) :
    measure (machine.exec initial inputs) ≤
      (sinceLast mark (machine.trace initial inputs)).countP counted := by
  have both := machine.historyInvariant (fun _ => True)
    (fun history state => Invariant state ∧
      measure state ≤ (sinceLast mark history).countP counted)
    (fun _ state input _ holds => ⟨counting.preserved state input holds.1,
      counting.step input holds.1 holds.2⟩)
    initial ⟨base, by rw [zero]; exact Nat.zero_le _⟩ inputs
    (fun _ _ => trivial)
  exact both.2

/-- Where a marked output is emitted only once the measure has reached a bound,
every stretch that a marked output closes counts up to that bound. -/
theorem Counted.bound_le_count
    (counting : machine.Counted measure mark counted Invariant) (bound : Nat)
    (reached : ∀ state input output, Invariant state →
      machine.output state input = some output → mark output = true →
      bound ≤ measure state)
    (initial : State) (base : Invariant initial) (zero : measure initial = 0)
    (inputs : List Input) :
    ∀ stretch ∈ closedStretches mark (machine.trace initial inputs),
      bound ≤ stretch.countP counted := by
  induction inputs using List.reverseRecOn with
  | nil => simp
  | append_singleton earlier last induction =>
      have invariant := machine.invariant Invariant counting.preserved initial
        base earlier
      have bounded := counting.le_count initial base zero earlier
      rw [trace_concat]
      cases emission : machine.output (machine.exec initial earlier) last with
      | none => simpa using induction
      | some output =>
          simp only [Option.toList_some, closedStretches_concat]
          by_cases marked : mark output = true
          · rw [if_pos marked]
            intro stretch member
            rcases List.mem_append.mp member with old | new
            · exact induction stretch old
            · rw [List.mem_singleton.mp new]
              exact Nat.le_trans
                (reached _ last output invariant emission marked) bounded
          · rw [if_neg marked]
            exact induction

end Counted

theorem exists_step_of_trace_eq (state : State) (inputs : List Input)
    (before later : List Output) (emitted : Output)
    (traced : machine.trace state inputs = before ++ emitted :: later) :
    ∃ earlier input rest,
      inputs = earlier ++ input :: rest ∧
      machine.trace state earlier = before ∧
      machine.output (machine.exec state earlier) input = some emitted ∧
      machine.trace (machine.step (machine.exec state earlier) input) rest =
        later := by
  induction inputs generalizing state before with
  | nil => simp at traced
  | cons input rest induction =>
      rw [trace_cons] at traced
      cases emission : machine.output state input with
      | none =>
          rw [emission] at traced
          obtain ⟨earlier, chosen, remaining, split, past, produced, future⟩ :=
            induction (machine.step state input) before traced
          refine ⟨input :: earlier, chosen, remaining, ?_, ?_, produced, future⟩
          · rw [split, List.cons_append]
          · rw [trace_cons, emission, past]
            rfl
      | some output =>
          rw [emission] at traced
          cases before with
          | nil =>
              simp only [Option.toList_some, List.singleton_append,
                List.nil_append, List.cons.injEq] at traced
              exact ⟨[], input, rest, rfl, rfl, by rw [exec_nil, emission,
                traced.1], traced.2⟩
          | cons first before =>
              simp only [Option.toList_some, List.cons_append,
                List.nil_append, List.cons.injEq] at traced
              obtain ⟨earlier, chosen, remaining, split, past, produced,
                  future⟩ :=
                induction (machine.step state input) before traced.2
              refine ⟨input :: earlier, chosen, remaining, ?_, ?_, produced,
                future⟩
              · rw [split, List.cons_append]
              · rw [trace_cons, emission, past, ← traced.1]
                rfl

/-- Every step along a run is of a certain kind. -/
def Along (Holds : State → Input → Prop) : State → List Input → Prop
  | _, [] => True
  | state, input :: rest =>
      Holds state input ∧ Along Holds (machine.step state input) rest

instance decidableAlong (Holds : State → Input → Prop)
    [∀ state input, Decidable (Holds state input)] :
    ∀ state inputs, Decidable (machine.Along Holds state inputs)
  | _, [] => isTrue trivial
  | state, input :: rest =>
      have := decidableAlong Holds (machine.step state input) rest
      inferInstanceAs (Decidable (_ ∧ _))

/-- Some step along a run is of a certain kind. -/
def Sometime (Holds : State → Input → Prop) : State → List Input → Prop
  | _, [] => False
  | state, input :: rest =>
      Holds state input ∨ Sometime Holds (machine.step state input) rest

section Along

variable {machine} {Holds Weaker : State → Input → Prop} {state : State}
variable {inputs : List Input}

theorem along_concat {last : Input} :
    machine.Along Holds state (inputs ++ [last]) ↔
      machine.Along Holds state inputs ∧
        Holds (machine.exec state inputs) last := by
  induction inputs generalizing state with
  | nil => simp [Along]
  | cons input rest induction =>
      simp only [List.cons_append, Along, exec_cons]
      rw [induction, and_assoc]

theorem sometime_concat {last : Input} :
    machine.Sometime Holds state (inputs ++ [last]) ↔
      machine.Sometime Holds state inputs ∨
        Holds (machine.exec state inputs) last := by
  induction inputs generalizing state with
  | nil => simp [Sometime]
  | cons input rest induction =>
      simp only [List.cons_append, Sometime, exec_cons]
      rw [induction, or_assoc]

theorem along_append {later : List Input} :
    machine.Along Holds state (inputs ++ later) ↔
      machine.Along Holds state inputs ∧
        machine.Along Holds (machine.exec state inputs) later := by
  induction inputs generalizing state with
  | nil => simp [Along]
  | cons input rest induction =>
      simp only [List.cons_append, Along, exec_cons]
      rw [induction, and_assoc]

theorem Along.mono (along : machine.Along Holds state inputs)
    (weaker : ∀ state input, Holds state input → Weaker state input) :
    machine.Along Weaker state inputs := by
  induction inputs generalizing state with
  | nil => trivial
  | cons input rest induction =>
      exact ⟨weaker state input along.1, induction along.2⟩

theorem Along.and_mem {Admitted : Input → Prop}
    (along : machine.Along Holds state inputs)
    (admitted : ∀ input ∈ inputs, Admitted input) :
    machine.Along (fun state input => Admitted input ∧ Holds state input)
      state inputs := by
  induction inputs generalizing state with
  | nil => trivial
  | cons input rest induction =>
      exact ⟨⟨admitted input List.mem_cons_self, along.1⟩,
        induction along.2 fun other member =>
          admitted other (List.mem_cons_of_mem _ member)⟩

theorem along_congr (same : ∀ state input,
    Holds state input ↔ Weaker state input) :
    machine.Along Holds state inputs ↔ machine.Along Weaker state inputs :=
  ⟨fun along => along.mono fun state input => (same state input).mp,
    fun along => along.mono fun state input => (same state input).mpr⟩

theorem Along.invariant (along : machine.Along Holds state inputs)
    (Invariant : State → Prop)
    (preserved : ∀ state input, Holds state input → Invariant state →
      Invariant (machine.step state input))
    (base : Invariant state) : Invariant (machine.exec state inputs) := by
  induction inputs generalizing state with
  | nil => exact base
  | cons input rest induction =>
      exact induction along.2 (preserved state input along.1 base)

/-- An invariant of the run says more about each of its steps. -/
theorem Along.strengthen {Stronger : State → Input → Prop}
    (along : machine.Along Holds state inputs) (Invariant : State → Prop)
    (preserved : ∀ state input, Holds state input → Invariant state →
      Invariant (machine.step state input))
    (stronger : ∀ state input, Holds state input → Invariant state →
      Stronger state input)
    (base : Invariant state) : machine.Along Stronger state inputs := by
  induction inputs generalizing state with
  | nil => trivial
  | cons input rest induction =>
      exact ⟨stronger state input along.1 base,
        induction along.2 (preserved state input along.1 base)⟩

end Along

end Machine

end Library
