import Mathlib.Logic.Function.Iterate
import QuarkMeteoStation.Library.Machine

namespace Library

universe u v w

/-! A procedure that runs again and again, beside an interrupt that may come
between any two of its steps. Up to a point of no return the interrupt might as
well have come before the procedure began; after it, only what the procedure
overtakes is left of it, and that might as well come once the procedure is done. -/

inductive Procedure.Phase
  | between
  | early
  | late
  deriving DecidableEq, Repr

structure Procedure (State : Type u) (Step : Type v) (Output : Type w) where
  body : Machine State Step Output
  interrupt : State → State
  /-- An interrupt as it is when the procedure overtakes it. -/
  overtaken : State → State
  phase : State → Procedure.Phase
  Invariant : State → Prop

namespace Procedure

inductive Move (Step : Type v)
  | interrupt
  | step (taken : Step)
  deriving DecidableEq, Repr

/-- What happens between two runs of the procedure, or one of these runs. -/
inductive Round (Step : Type v)
  | interrupt
  | overtaken
  | whole (steps : List Step)
  deriving DecidableEq, Repr

namespace Move

variable {Step : Type v}

def isInterrupt : Move Step → Bool
  | interrupt => true
  | step _ => false

end Move

namespace Phase

theorem early_ne_between : early ≠ between :=
  Phase.noConfusion

theorem late_ne_between : late ≠ between :=
  Phase.noConfusion

theorem between_ne_late : between ≠ late :=
  Phase.noConfusion

end Phase

namespace Round

variable {Step : Type v}

def isInterrupt : Round Step → Bool
  | interrupt | overtaken => true
  | whole _ => false

end Round

variable {State : Type u} {Step : Type v} {Output : Type w}
variable (procedure : Procedure State Step Output)

def interleaved : Machine State (Move Step) Output where
  start := fun state => procedure.Invariant state ∧
    procedure.phase state = .between
  step := fun state move =>
    match move with
    | .interrupt => procedure.interrupt state
    | .step taken => procedure.body.step state taken
  output := fun state move =>
    match move with
    | .interrupt => none
    | .step taken => procedure.body.output state taken

/-- Each run of the procedure is one step. -/
def atomic : Machine State (Round Step) (List Output) where
  start := procedure.interleaved.start
  step := fun state round =>
    match round with
    | .interrupt => procedure.interrupt state
    | .overtaken => procedure.overtaken state
    | .whole steps => procedure.body.exec state steps
  output := fun state round =>
    match round with
    | .interrupt | .overtaken => none
    | .whole steps => some (procedure.body.trace state steps)

/-- Steps none of which ends the procedure. -/
def Underway (state : State) (steps : List Step) : Prop :=
  procedure.body.Along (fun state taken =>
    procedure.phase (procedure.body.step state taken) ≠ .between) state steps

/-- Steps of which the last one, and no other, ends the procedure. -/
structure Finishes (state : State) (steps : List Step) : Prop where
  split : ∃ earlier last, steps = earlier ++ [last] ∧
    procedure.Underway state earlier
  finished : procedure.phase (procedure.body.exec state steps) = .between

def Proper (state : State) : Round Step → Prop
  | .interrupt | .overtaken => True
  | .whole steps => procedure.phase state = .between ∧ 1 < steps.length ∧
      procedure.Finishes state steps

section Finishes

variable {procedure} {state : State} {steps : List Step}

theorem Finishes.next (finishes : procedure.Finishes state steps)
    (inside : ∀ taken,
      procedure.phase (procedure.body.step state taken) ≠ .between) :
    ∃ taken rest, steps = taken :: rest ∧
      procedure.Finishes (procedure.body.step state taken) rest := by
  obtain ⟨earlier, last, rfl, underway⟩ := finishes.split
  cases earlier with
  | nil => exact absurd finishes.finished (inside last)
  | cons taken earlier =>
      exact ⟨taken, earlier ++ [last], rfl,
        ⟨earlier, last, rfl, underway.2⟩, finishes.finished⟩

theorem Finishes.last (finishes : procedure.Finishes state steps)
    (ends : ∀ taken,
      procedure.phase (procedure.body.step state taken) = .between) :
    ∃ taken, steps = [taken] := by
  obtain ⟨earlier, last, rfl, underway⟩ := finishes.split
  cases earlier with
  | nil => exact ⟨last, rfl⟩
  | cons taken earlier => exact absurd (ends taken) underway.1

/-- What is underway and then finishes, finishes. -/
theorem Finishes.append {later : List Step}
    (underway : procedure.Underway state steps)
    (finishes : procedure.Finishes (procedure.body.exec state steps) later) :
    procedure.Finishes state (steps ++ later) := by
  obtain ⟨earlier, last, rfl, rest⟩ := finishes.split
  refine ⟨⟨steps ++ earlier, last, (List.append_assoc ..).symm,
    Machine.along_append.mpr ⟨underway, rest⟩⟩, ?_⟩
  rw [Machine.exec_append]
  exact finishes.finished

end Finishes

structure Lawful : Prop where
  body : ∀ {state}, procedure.Invariant state → ∀ taken,
    procedure.Invariant (procedure.body.step state taken)
  interrupt : ∀ {state}, procedure.Invariant state →
    procedure.Invariant (procedure.interrupt state) ∧
      procedure.phase (procedure.interrupt state) = procedure.phase state
  overtaken : ∀ {state}, procedure.Invariant state →
    procedure.Invariant (procedure.overtaken state) ∧
      procedure.phase (procedure.overtaken state) = procedure.phase state
  /-- Between its runs the procedure begins or waits. -/
  waits : ∀ {state}, procedure.Invariant state →
    procedure.phase state = .between → ∀ taken,
      procedure.phase (procedure.body.step state taken) = .early ∨
        procedure.body.step state taken = state ∧
          procedure.body.output state taken = none
  proceeds : ∀ {state}, procedure.Invariant state →
    procedure.phase state = .early → ∀ taken,
      procedure.phase (procedure.body.step state taken) ≠ .between
  commits : ∀ {state}, procedure.Invariant state →
    procedure.phase state = .late → ∀ taken,
      procedure.phase (procedure.body.step state taken) ≠ .early
  /-- Up to the point of no return an interrupt commutes with the steps. -/
  commutes : ∀ {state}, procedure.Invariant state → ∀ taken,
    procedure.phase (procedure.body.step state taken) = .early →
      procedure.body.step (procedure.interrupt state) taken =
          procedure.interrupt (procedure.body.step state taken) ∧
        procedure.body.output (procedure.interrupt state) taken =
          procedure.body.output state taken
  overtakes : ∀ {state}, procedure.Invariant state →
    procedure.phase state = .late →
      procedure.interrupt state = procedure.overtaken state
  postpones : ∀ {state}, procedure.Invariant state →
    procedure.phase state = .late → ∀ taken,
      procedure.body.step (procedure.overtaken state) taken =
          procedure.overtaken (procedure.body.step state taken) ∧
        procedure.body.output (procedure.overtaken state) taken =
          procedure.body.output state taken

/-- A run of the procedure beside its interrupt, as whole runs with the
interrupts between them, the steps of a run that is still underway, and the
interrupts this one has to overtake. -/
structure Reduced (initial : State) (moves : List (Move Step))
    (rounds : List (Round Step)) (steps : List Step) (count : Nat) : Prop where
  proper : procedure.atomic.Along procedure.Proper initial rounds
  underway : procedure.Underway (procedure.atomic.exec initial rounds) steps
  state : procedure.interleaved.exec initial moves =
    procedure.overtaken^[count]
      (procedure.body.exec (procedure.atomic.exec initial rounds) steps)
  outputs : procedure.interleaved.trace initial moves =
    (procedure.atomic.trace initial rounds).flatten ++
      procedure.body.trace (procedure.atomic.exec initial rounds) steps
  interrupts : moves.countP Move.isInterrupt =
    rounds.countP Round.isInterrupt + count
  pending : count ≠ 0 → procedure.phase
    (procedure.interleaved.exec initial moves) = .late

namespace Lawful

variable {procedure}
variable {state initial : State} {steps : List Step}
variable {moves : List (Move Step)} {rounds : List (Round Step)}
variable {count : Nat}

theorem exec_invariant (lawful : procedure.Lawful)
    (invariant : procedure.Invariant state) (steps : List Step) :
    procedure.Invariant (procedure.body.exec state steps) :=
  procedure.body.invariant procedure.Invariant
    (fun _ taken holds => lawful.body holds taken) state invariant steps

theorem iterate_overtaken (lawful : procedure.Lawful)
    (invariant : procedure.Invariant state) (count : Nat) :
    procedure.Invariant (procedure.overtaken^[count] state) ∧
      procedure.phase (procedure.overtaken^[count] state) =
        procedure.phase state := by
  induction count with
  | zero => exact ⟨invariant, rfl⟩
  | succ count induction =>
      obtain ⟨kept, same⟩ := lawful.overtaken induction.1
      rw [Function.iterate_succ_apply']
      exact ⟨kept, same.trans induction.2⟩

theorem iterate_step (lawful : procedure.Lawful)
    (invariant : procedure.Invariant state)
    (late : procedure.phase state = .late) (count : Nat) (taken : Step) :
    procedure.body.step (procedure.overtaken^[count] state) taken =
        procedure.overtaken^[count] (procedure.body.step state taken) ∧
      procedure.body.output (procedure.overtaken^[count] state) taken =
        procedure.body.output state taken := by
  induction count with
  | zero => exact ⟨rfl, rfl⟩
  | succ count induction =>
      obtain ⟨kept, same⟩ := lawful.iterate_overtaken invariant count
      obtain ⟨steps, emits⟩ :=
        lawful.postpones kept (same.trans late) taken
      rw [Function.iterate_succ_apply', Function.iterate_succ_apply', steps,
        emits, induction.1]
      exact ⟨rfl, induction.2⟩

theorem phase_of_underway (underway : procedure.Underway state steps)
    (some : steps ≠ []) :
    procedure.phase (procedure.body.exec state steps) ≠ .between := by
  rcases List.eq_nil_or_concat steps with empty | ⟨earlier, last, rfl⟩
  · exact absurd empty some
  · rw [List.concat_eq_append] at underway ⊢
    rw [Machine.exec_concat]
    exact (Machine.along_concat.mp underway).2

/-- A run that has not passed the point of no return was early throughout. -/
theorem early_along (lawful : procedure.Lawful)
    (invariant : procedure.Invariant state)
    (underway : procedure.Underway state steps)
    (early : procedure.phase (procedure.body.exec state steps) = .early) :
    procedure.body.Along (fun state taken =>
      procedure.phase (procedure.body.step state taken) = .early)
      state steps := by
  induction steps using List.reverseRecOn with
  | nil => trivial
  | append_singleton earlier last induction =>
      have front := (Machine.along_concat.mp underway).1
      rw [Machine.exec_concat] at early
      refine Machine.along_concat.mpr ⟨?_, early⟩
      cases earlier with
      | nil => trivial
      | cons first rest =>
          apply induction front
          have reached := lawful.exec_invariant invariant (first :: rest)
          cases phase : procedure.phase
              (procedure.body.exec state (first :: rest)) with
          | between => exact absurd phase (phase_of_underway front (by simp))
          | early => rfl
          | late => exact absurd early (lawful.commits reached phase last)

/-- An interrupt before the point of no return might as well have come before
the first step. -/
theorem interrupt_first (lawful : procedure.Lawful)
    (invariant : procedure.Invariant state)
    (early : procedure.body.Along (fun state taken =>
      procedure.phase (procedure.body.step state taken) = .early)
      state steps) :
    procedure.body.exec (procedure.interrupt state) steps =
        procedure.interrupt (procedure.body.exec state steps) ∧
      procedure.body.trace (procedure.interrupt state) steps =
        procedure.body.trace state steps ∧
      procedure.Underway (procedure.interrupt state) steps := by
  induction steps generalizing state with
  | nil => exact ⟨rfl, rfl, trivial⟩
  | cons taken steps induction =>
      have kept := lawful.body invariant taken
      obtain ⟨moves, emits⟩ := lawful.commutes invariant taken early.1
      obtain ⟨state, outputs, underway⟩ := induction kept early.2
      rw [Machine.exec_cons, Machine.trace_cons, moves, emits, state, outputs]
      refine ⟨rfl, rfl, ?_, ?_⟩
      · have still := (lawful.interrupt kept).2.trans early.1
        simp only [moves, still, ne_eq, reduceCtorEq, not_false_eq_true]
      · rw [moves]
        exact underway

theorem atomic_exec (lawful : procedure.Lawful)
    (base : procedure.interleaved.start initial)
    (proper : procedure.atomic.Along procedure.Proper initial rounds) :
    procedure.interleaved.start (procedure.atomic.exec initial rounds) := by
  refine proper.invariant procedure.interleaved.start ?_ base
  intro state round proper entered
  obtain ⟨invariant, between⟩ := entered
  cases round with
  | interrupt =>
      obtain ⟨kept, same⟩ := lawful.interrupt invariant
      exact ⟨kept, same.trans between⟩
  | overtaken =>
      obtain ⟨kept, same⟩ := lawful.overtaken invariant
      exact ⟨kept, same.trans between⟩
  | whole steps =>
      exact ⟨lawful.exec_invariant invariant steps, proper.2.2.finished⟩

theorem atomic_overtaken (count : Nat) :
    procedure.atomic.exec state (List.replicate count .overtaken) =
        procedure.overtaken^[count] state ∧
      procedure.atomic.trace state (List.replicate count .overtaken) = [] ∧
      procedure.atomic.Along procedure.Proper state
        (List.replicate count .overtaken) := by
  induction count generalizing state with
  | zero => exact ⟨rfl, rfl, trivial⟩
  | succ count induction =>
      obtain ⟨state, outputs, proper⟩ :=
        @induction (procedure.overtaken state)
      exact ⟨state, outputs, trivial, proper⟩

/-- Only past the point of no return is anything left to overtake. -/
theorem pending_eq_zero
    (reduced : procedure.Reduced initial moves rounds steps count)
    (notLate : procedure.phase (procedure.interleaved.exec initial moves) ≠
      .late) : count = 0 := by
  cases count with
  | zero => rfl
  | succ count => exact absurd (reduced.pending (by simp)) notLate

section Step

variable (lawful : procedure.Lawful)
variable (base : procedure.interleaved.start initial)
variable (reduced : procedure.Reduced initial moves rounds steps count)

include lawful base reduced

/-- The state of the run in progress, and its phase. -/
theorem reached :
    procedure.Invariant (procedure.body.exec
        (procedure.atomic.exec initial rounds) steps) ∧
      procedure.phase (procedure.body.exec
          (procedure.atomic.exec initial rounds) steps) =
        procedure.phase (procedure.interleaved.exec initial moves) := by
  have entered := lawful.atomic_exec base reduced.proper
  have invariant := lawful.exec_invariant entered.1 steps
  refine ⟨invariant, ?_⟩
  rw [reduced.state]
  exact (lawful.iterate_overtaken invariant count).2.symm

theorem underway_eq_nil
    (between : procedure.phase (procedure.interleaved.exec initial moves) =
      .between) : steps = [] := by
  obtain ⟨-, same⟩ := lawful.reached base reduced
  cases steps with
  | nil => rfl
  | cons first rest =>
      exact absurd (same.trans between)
        (phase_of_underway reduced.underway (by simp))

theorem reduced_interrupt : ∃ rounds steps count,
    procedure.Reduced initial (moves ++ [.interrupt]) rounds steps count := by
  have entered := lawful.atomic_exec base reduced.proper
  obtain ⟨invariant, same⟩ := lawful.reached base reduced
  have counted : (moves ++ [Move.interrupt]).countP Move.isInterrupt =
      moves.countP Move.isInterrupt + 1 := by
    rw [List.countP_append]
    rfl
  cases phase : procedure.phase (procedure.interleaved.exec initial moves) with
  | late =>
      obtain ⟨kept, still⟩ := lawful.iterate_overtaken invariant count
      have late := still.trans (same.trans phase)
      have stepped : procedure.interleaved.exec initial
          (moves ++ [.interrupt]) = procedure.overtaken^[count + 1]
            (procedure.body.exec (procedure.atomic.exec initial rounds)
              steps) := by
        rw [Machine.exec_concat, reduced.state, Function.iterate_succ_apply']
        exact lawful.overtakes kept late
      refine ⟨rounds, steps, count + 1, reduced.proper, reduced.underway,
        stepped, ?_, ?_, fun _ => ?_⟩
      · rw [Machine.trace_concat, reduced.outputs]
        exact List.append_nil _
      · rw [counted, reduced.interrupts, Nat.add_assoc]
      · rw [stepped, (lawful.iterate_overtaken invariant (count + 1)).2]
        exact same.trans phase
  | _ =>
      have early : procedure.body.Along (fun state taken =>
          procedure.phase (procedure.body.step state taken) = .early)
          (procedure.atomic.exec initial rounds) steps := by
        cases steps with
        | nil => trivial
        | cons first rest =>
            have inside := phase_of_underway reduced.underway (by simp)
            apply lawful.early_along entered.1 reduced.underway
            cases here : procedure.phase (procedure.body.exec
                (procedure.atomic.exec initial rounds) (first :: rest)) with
            | between => exact absurd here inside
            | early => rfl
            | late =>
                rw [here, phase] at same
                exact Phase.noConfusion same
      have none := pending_eq_zero reduced (by
        rw [phase]
        exact Phase.noConfusion)
      obtain ⟨state, outputs, underway⟩ :=
        lawful.interrupt_first entered.1 early
      have before := reduced.state
      rw [none] at before
      have moved : procedure.atomic.exec initial (rounds ++ [.interrupt]) =
          procedure.interrupt (procedure.atomic.exec initial rounds) :=
        Machine.exec_concat ..
      have silent : procedure.atomic.trace initial (rounds ++ [.interrupt]) =
          procedure.atomic.trace initial rounds := by
        rw [Machine.trace_concat]
        exact List.append_nil _
      refine ⟨rounds ++ [.interrupt], steps, 0,
        Machine.along_concat.mpr ⟨reduced.proper, by exact True.intro⟩, ?_, ?_,
        ?_, ?_, fun some => absurd rfl some⟩
      · rw [moved]
        exact underway
      · rw [Machine.exec_concat, before, moved]
        exact state.symm
      · rw [moved, silent, outputs, Machine.trace_concat, reduced.outputs]
        exact List.append_nil _
      · rw [counted, reduced.interrupts, none, List.countP_append]
        rfl

/-- A step of the procedure that does not end it. -/
theorem reduced_further {taken : Step}
    (inside : procedure.phase (procedure.body.step (procedure.body.exec
      (procedure.atomic.exec initial rounds) steps) taken) ≠ .between)
    (still : count ≠ 0 → procedure.phase (procedure.body.step
      (procedure.body.exec (procedure.atomic.exec initial rounds) steps)
        taken) = .late) :
    procedure.Reduced initial (moves ++ [.step taken]) rounds
      (steps ++ [taken]) count := by
  obtain ⟨invariant, same⟩ := lawful.reached base reduced
  have both : procedure.body.step (procedure.interleaved.exec initial moves)
        taken = procedure.overtaken^[count] (procedure.body.step
          (procedure.body.exec (procedure.atomic.exec initial rounds) steps)
          taken) ∧
      procedure.body.output (procedure.interleaved.exec initial moves) taken =
        procedure.body.output (procedure.body.exec
          (procedure.atomic.exec initial rounds) steps) taken := by
    rw [reduced.state]
    cases count with
    | zero => exact ⟨rfl, rfl⟩
    | succ count =>
        have late := same.trans (reduced.pending (by simp))
        exact lawful.iterate_step invariant late (count + 1) taken
  have stepped : procedure.interleaved.exec initial (moves ++ [.step taken]) =
      procedure.overtaken^[count] (procedure.body.exec
        (procedure.atomic.exec initial rounds) (steps ++ [taken])) := by
    rw [Machine.exec_concat, Machine.exec_concat]
    exact both.1
  refine ⟨reduced.proper, Machine.along_concat.mpr ⟨reduced.underway, inside⟩,
    stepped, ?_, ?_, fun some => ?_⟩
  · rw [Machine.trace_concat, Machine.trace_concat, reduced.outputs,
      ← List.append_assoc, ← both.2]
    rfl
  · rw [List.countP_append, reduced.interrupts]
    rfl
  · rw [stepped, Machine.exec_concat, (lawful.iterate_overtaken
      (lawful.body invariant taken) count).2]
    exact still some

/-- The last step of the procedure, after which what it has overtaken comes. -/
theorem reduced_finished {taken : Step}
    (late : procedure.phase (procedure.interleaved.exec initial moves) = .late)
    (finished : procedure.phase (procedure.body.step (procedure.body.exec
      (procedure.atomic.exec initial rounds) steps) taken) = .between) :
    procedure.Reduced initial (moves ++ [.step taken])
      (rounds ++ [.whole (steps ++ [taken])] ++
        List.replicate count .overtaken) [] 0 := by
  have entered := lawful.atomic_exec base reduced.proper
  obtain ⟨invariant, same⟩ := lawful.reached base reduced
  obtain ⟨stepped, emits⟩ :=
    lawful.iterate_step invariant (same.trans late) count taken
  have some : steps ≠ [] := by
    rintro rfl
    rw [late] at same
    exact Phase.noConfusion (entered.2.symm.trans same)
  obtain ⟨after, silent, properly⟩ := @atomic_overtaken _ _ _ procedure
    (procedure.body.exec (procedure.atomic.exec initial rounds)
      (steps ++ [taken])) count
  have several : 1 < (steps ++ [taken]).length := by
    rw [List.length_append]
    exact Nat.succ_lt_succ (List.length_pos_iff.mpr some)
  have whole : procedure.Finishes (procedure.atomic.exec initial rounds)
      (steps ++ [taken]) :=
    ⟨⟨steps, taken, rfl, reduced.underway⟩, by
      rw [Machine.exec_concat]
      exact finished⟩
  have ended : procedure.atomic.exec initial
      (rounds ++ [.whole (steps ++ [taken])]) =
        procedure.body.exec (procedure.atomic.exec initial rounds)
          (steps ++ [taken]) :=
    Machine.exec_concat ..
  have told : procedure.atomic.trace initial
      (rounds ++ [.whole (steps ++ [taken])]) =
        procedure.atomic.trace initial rounds ++
          [procedure.body.trace (procedure.atomic.exec initial rounds)
            (steps ++ [taken])] :=
    Machine.trace_concat ..
  refine ⟨Machine.along_append.mpr ⟨Machine.along_concat.mpr
    ⟨reduced.proper, entered.2, several, whole⟩, by rw [ended]; exact properly⟩,
    trivial, ?_, ?_, ?_, fun some => absurd rfl some⟩
  · rw [Machine.exec_concat, reduced.state, Machine.exec_append, ended, after,
      Machine.exec_concat]
    exact stepped
  · rw [Machine.trace_concat, reduced.outputs, Machine.trace_append, ended,
      silent, told, reduced.state]
    simp only [List.append_nil, List.flatten_append, List.flatten_cons,
      List.flatten_nil, Machine.trace_concat, Machine.trace_nil,
      List.append_assoc]
    rw [← emits]
    rfl
  · simp only [List.countP_append, reduced.interrupts]
    simp [Round.isInterrupt, Move.isInterrupt, List.countP_replicate]

theorem reduced_step (taken : Step) : ∃ rounds steps count,
    procedure.Reduced initial (moves ++ [.step taken]) rounds steps
      count := by
  have entered := lawful.atomic_exec base reduced.proper
  obtain ⟨invariant, same⟩ := lawful.reached base reduced
  cases phase : procedure.phase (procedure.interleaved.exec initial moves) with
  | between =>
      have none := pending_eq_zero reduced (by
        rw [phase]
        exact Phase.noConfusion)
      have empty := lawful.underway_eq_nil base reduced phase
      subst none empty
      rcases lawful.waits entered.1 entered.2 taken with begins | ⟨waits, silent⟩
      · exact ⟨rounds, [taken], 0, lawful.reduced_further base reduced
          (by
            rw [Machine.exec_nil, begins]
            exact Phase.noConfusion)
          (fun some => absurd rfl some)⟩
      · have resting : procedure.interleaved.exec initial moves =
            procedure.atomic.exec initial rounds := reduced.state
        refine ⟨rounds, [], 0, reduced.proper, trivial, ?_, ?_, ?_,
          fun some => absurd rfl some⟩
        · rw [Machine.exec_concat, resting]
          exact waits
        · rw [Machine.trace_concat, reduced.outputs, resting]
          change _ ++ (procedure.body.output _ taken).toList = _
          rw [silent]
          exact List.append_nil _
        · rw [List.countP_append, reduced.interrupts]
          rfl
  | early =>
      have none := pending_eq_zero reduced (by
        rw [phase]
        exact Phase.noConfusion)
      subst none
      exact ⟨rounds, steps ++ [taken], 0, lawful.reduced_further base reduced
        (lawful.proceeds invariant (same.trans phase) taken)
        (fun some => absurd rfl some)⟩
  | late =>
      have later := lawful.commits invariant (same.trans phase) taken
      cases next : procedure.phase (procedure.body.step (procedure.body.exec
          (procedure.atomic.exec initial rounds) steps) taken) with
      | between =>
          exact ⟨_, _, _, lawful.reduced_finished base reduced phase next⟩
      | early => exact absurd next later
      | late =>
          exact ⟨rounds, steps ++ [taken], count,
            lawful.reduced_further base reduced
              (by
                rw [next]
                exact Phase.noConfusion)
              (fun _ => next)⟩

end Step

/-- Every run has the outputs of whole runs of the procedure, with the
interrupts between them, and of a last one that is still underway. -/
theorem reduce (lawful : procedure.Lawful)
    (base : procedure.interleaved.start initial) (moves : List (Move Step)) :
    ∃ rounds steps count,
      procedure.Reduced initial moves rounds steps count := by
  induction moves using List.reverseRecOn with
  | nil =>
      exact ⟨[], [], 0, trivial, trivial, rfl, rfl, rfl,
        fun some => absurd rfl some⟩
  | append_singleton earlier move induction =>
      obtain ⟨rounds, steps, count, reduced⟩ := induction
      cases move with
      | interrupt => exact lawful.reduced_interrupt base reduced
      | step taken => exact lawful.reduced_step base reduced taken

end Lawful

end Procedure

end Library
