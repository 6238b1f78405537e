import QuarkMeteoStation.Library.Machine

namespace Library

universe u v w u' v'

/-! A machine that moves exactly as another one does, on inputs that may depend
on its own state. -/

structure Simulation {State : Type u} {Input : Type v} {Output : Type w}
    {Abstract : Type u'} {Action : Type v'}
    (concrete : Machine State Input Output)
    (abstract : Machine Abstract Action Output) where
  state : State → Abstract
  input : State → Input → Action
  start : ∀ initial, concrete.start initial → abstract.start (state initial)
  step : ∀ before taken, state (concrete.step before taken) =
    abstract.step (state before) (input before taken)
  output : ∀ before taken, concrete.output before taken =
    abstract.output (state before) (input before taken)

namespace Simulation

variable {State : Type u} {Input : Type v} {Output : Type w}
variable {Abstract : Type u'} {Action : Type v'}
variable {concrete : Machine State Input Output}
variable {abstract : Machine Abstract Action Output}
variable (simulation : Simulation concrete abstract)

def inputs : State → List Input → List Action
  | _, [] => []
  | before, taken :: rest =>
      simulation.input before taken ::
        inputs (concrete.step before taken) rest

theorem exec (before : State) (taken : List Input) :
    simulation.state (concrete.exec before taken) =
      abstract.exec (simulation.state before)
        (simulation.inputs before taken) := by
  induction taken generalizing before with
  | nil => rfl
  | cons first rest induction =>
      simp only [Machine.exec_cons, inputs]
      rw [induction, simulation.step]

theorem trace (before : State) (taken : List Input) :
    concrete.trace before taken =
      abstract.trace (simulation.state before)
        (simulation.inputs before taken) := by
  induction taken generalizing before with
  | nil => rfl
  | cons first rest induction =>
      simp only [Machine.trace_cons, inputs]
      rw [induction, simulation.step, simulation.output]

theorem along (Holds : Abstract → Action → Prop) (before : State)
    (taken : List Input) :
    abstract.Along Holds (simulation.state before)
        (simulation.inputs before taken) ↔
      concrete.Along
        (fun state input => Holds (simulation.state state)
          (simulation.input state input))
        before taken := by
  induction taken generalizing before with
  | nil => exact Iff.rfl
  | cons first rest induction =>
      simp only [Machine.Along, inputs]
      rw [← induction, simulation.step]

end Simulation

end Library
