import QuarkMeteoStation.Library.Machine

namespace Library

universe u v w

/-! Two runs of one machine, taken step by step together. -/

namespace Machine

variable {State : Type u} {Input : Type v} {Output : Type w}
variable (machine : Machine State Input Output)

def twice : Machine (State × State) (Input × Input)
    (Option Output × Option Output) where
  start := fun states => machine.start states.1 ∧ machine.start states.2
  step := fun states inputs =>
    (machine.step states.1 inputs.1, machine.step states.2 inputs.2)
  output := fun states inputs =>
    some (machine.output states.1 inputs.1, machine.output states.2 inputs.2)

theorem exec_twice (states : State × State) (inputs : List (Input × Input)) :
    machine.twice.exec states inputs =
      (machine.exec states.1 (inputs.map Prod.fst),
        machine.exec states.2 (inputs.map Prod.snd)) := by
  induction inputs generalizing states with
  | nil => rfl
  | cons first rest induction =>
      rw [exec_cons, induction]
      rfl

/-- Runs that agree on the output of every step have the same trace. -/
theorem trace_eq_of_along {states : State × State}
    {inputs : List (Input × Input)}
    (same : machine.twice.Along
      (fun states inputs => machine.output states.1 inputs.1 =
        machine.output states.2 inputs.2) states inputs) :
    machine.trace states.1 (inputs.map Prod.fst) =
      machine.trace states.2 (inputs.map Prod.snd) := by
  induction inputs generalizing states with
  | nil => rfl
  | cons first rest induction =>
      rw [List.map_cons, List.map_cons, trace_cons, trace_cons, same.1]
      exact congrArg _ (induction same.2)

/-- Two runs emit the same as long as a relation between their states is kept
and forces their outputs. -/
theorem trace_eq_of_related {Related : State × State → Prop}
    {Holds : State × State → Input × Input → Prop}
    {states : State × State} {inputs : List (Input × Input)}
    (along : machine.twice.Along Holds states inputs)
    (kept : ∀ states inputs, Holds states inputs → Related states →
      Related (machine.twice.step states inputs))
    (forced : ∀ states inputs, Holds states inputs → Related states →
      machine.output states.1 inputs.1 = machine.output states.2 inputs.2)
    (related : Related states) :
    machine.trace states.1 (inputs.map Prod.fst) =
      machine.trace states.2 (inputs.map Prod.snd) :=
  machine.trace_eq_of_along (along.strengthen Related kept forced related)

/-- Conversely, runs that emit at the same steps and have the same trace agree
on every step. -/
theorem along_of_trace_eq {Related : State × State → Prop}
    {Holds : State × State → Input × Input → Prop}
    {states : State × State} {inputs : List (Input × Input)}
    (along : machine.twice.Along Holds states inputs)
    (synchronous : ∀ states inputs, Holds states inputs → Related states →
      (machine.output states.1 inputs.1).isSome =
        (machine.output states.2 inputs.2).isSome)
    (kept : ∀ states inputs, Holds states inputs →
      machine.output states.1 inputs.1 = machine.output states.2 inputs.2 →
      Related states → Related (machine.twice.step states inputs))
    (related : Related states)
    (same : machine.trace states.1 (inputs.map Prod.fst) =
      machine.trace states.2 (inputs.map Prod.snd)) :
    machine.twice.Along
      (fun states inputs => (Holds states inputs ∧ Related states) ∧
        machine.output states.1 inputs.1 = machine.output states.2 inputs.2)
      states inputs := by
  induction inputs generalizing states with
  | nil => trivial
  | cons first rest induction =>
      rw [List.map_cons, List.map_cons, trace_cons, trace_cons] at same
      have present := synchronous states first along.1 related
      have both : machine.output states.1 first.1 =
            machine.output states.2 first.2 ∧
          machine.trace (machine.step states.1 first.1)
              (rest.map Prod.fst) =
            machine.trace (machine.step states.2 first.2)
              (rest.map Prod.snd) := by
        cases left : machine.output states.1 first.1 <;>
          cases right : machine.output states.2 first.2 <;>
          simp_all
      exact ⟨⟨⟨along.1, related⟩, both.1⟩, induction along.2
        (kept states first along.1 both.1 related) both.2⟩

end Machine

end Library
