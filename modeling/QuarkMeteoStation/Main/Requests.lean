import QuarkMeteoStation.Main.PacedRun

namespace QuarkMeteoStation

open Library

/-! Ticks as requests for a cycle: which of them the flag `update_state` still
records when the main loop comes back to test it. -/

namespace Event

def isCycleStart (event : Event) : Bool :=
  event = .cycleStart

def isCycleEnd (event : Event) : Bool :=
  event = .cycleEnd

end Event

def Action.isMainStep : Action → Bool
  | .timerCallback => false
  | .mainStep _ => true

def TickSince (mark : Event → Bool) (history : List Event) : Prop :=
  .timerCallback ∈ sinceLast mark history

instance (mark : Event → Bool) (history : List Event) :
    Decidable (TickSince mark history) :=
  inferInstanceAs (Decidable (_ ∈ _))

/-- About to test the flag, the main loop finds every tick since the last cycle
began recorded in it. -/
def TickRecorded (station : Station) (history : List Event) : Prop :=
  station.control.point = .testUpdateState →
    TickSince Event.isCycleStart history →
      station.control.updateState = .updateRequest

/-- A tick that fell into the last cycle was followed by another one after the
cycle. -/
def TickRepeated (station : Station) (history : List Event) : Prop :=
  station.control.point = .testUpdateState →
    TickSince Event.isCycleStart history →
      TickSince Event.isCycleEnd history

instance (station : Station) (history : List Event) :
    Decidable (TickRecorded station history) :=
  inferInstanceAs (Decidable (_ → _ → _))

instance (station : Station) (history : List Event) :
    Decidable (TickRepeated station history) :=
  inferInstanceAs (Decidable (_ → _ → _))

/-- No request is lost along a run: every tick is recorded until a cycle begins
after it, and a full cycle does, given the steps of two cycles. -/
structure RequestsServed (period : UpdatePeriod) (initial : Station)
    (actions : List Action) : Prop where
  recorded : ∀ earlier, earlier <+: actions →
    TickRecorded ((Station.machine period).exec initial earlier)
      ((Station.machine period).trace initial earlier)
  served : ∀ before after, actions = before ++ .timerCallback :: after →
    31 ≤ after.countP Action.isMainStep →
      List.Sublist [.cycleStart, .cycleEnd] ((Station.machine period).trace
        ((Station.machine period).exec initial (before ++ [.timerCallback]))
        after)

namespace Control

variable {period : UpdatePeriod} {control : Control}

theorem remaining_timerCallback (busy : control.point ≠ .testUpdateState) :
    (control.timerCallback period).remaining = control.remaining := by
  unfold remaining
  rw [point_timerCallback]
  cases point : control.point <;> simp_all

theorem remaining_pos (busy : control.point ≠ .testUpdateState) :
    0 < control.remaining := by
  unfold remaining
  cases point : control.point <;> simp_all

theorem remaining_le (busy : control.point ≠ .testUpdateState) :
    control.remaining ≤ 15 := by
  unfold remaining
  cases point : control.point <;> simp_all

theorem point_next_of_busy (busy : control.point ≠ .testUpdateState)
    (notLast : control.point ≠ .setUpToDate) :
    (control.next period).point ≠ .testUpdateState := by
  have edges : ∀ point : Point, point ≠ .testUpdateState →
      point ≠ .setUpToDate → .testUpdateState ∉ point.successors := by
    intro point
    cases point <;> decide
  intro back
  apply edges control.point busy notLast
  rw [← back]
  exact next_mem_successors period control

theorem updateState_next_of_notLast (notLast : control.point ≠ .setUpToDate) :
    (control.next period).updateState = control.updateState := by
  cases point : control.point <;> simp only [Control.next, point] <;>
    (try split) <;> simp_all

end Control

namespace Station

variable {period : UpdatePeriod} {station : Station}

theorem call_setUpToDate (last : station.control.point = .setUpToDate)
    (readings : Readings) : station.call readings = some .cycleEnd := by
  simp only [call, last]

theorem cycleEnd_not_called (notLast : station.control.point ≠ .setUpToDate)
    (readings : Readings) :
    Event.cycleEnd ∉ station.call readings := by
  unfold call
  cases point : station.control.point <;> simp_all

theorem cycleStart_not_called (busy : station.control.point ≠ .testUpdateState)
    (readings : Readings) :
    Event.cycleStart ∉ station.call readings := by
  unfold call
  cases point : station.control.point <;> simp_all

theorem timerCallback_not_called (readings : Readings) :
    Event.timerCallback ∉ station.call readings := by
  intro member
  exact absurd (station.isTick_call readings _ member) (by decide)

end Station

/-- The flag is set until a cycle has ended, and from then on exactly when a
tick has come since the last one ended. -/
def FlagExplained (history : List Event) (station : Station) : Prop :=
  station.control.updateState = .updateRequest ↔
    .cycleEnd ∉ history ∨ TickSince Event.isCycleEnd history

theorem FlagExplained.timerCallback {period : UpdatePeriod}
    {history : List Event} {station : Station} :
    FlagExplained (history ++ [.timerCallback])
      (station.step period .timerCallback) := by
  unfold FlagExplained TickSince
  simp [Control.step, Event.isCycleEnd]

theorem FlagExplained.mainStep {period : UpdatePeriod} {history : List Event}
    {station : Station} (explained : FlagExplained history station)
    (readings : Readings) :
    FlagExplained (history ++ (station.call readings).toList)
      (station.step period (.mainStep readings)) := by
  unfold FlagExplained TickSince at explained ⊢
  rw [Station.control_step, Control.step]
  by_cases last : station.control.point = .setUpToDate
  · rw [Station.call_setUpToDate last]
    simp [Control.next, last, Event.isCycleEnd]
  · have notEnded := Station.cycleEnd_not_called last readings
    have noTick := @Station.timerCallback_not_called station readings
    rw [Control.updateState_next_of_notLast last, explained]
    cases called : station.call readings with
    | none => simp
    | some event =>
        rw [called] at notEnded noTick
        have other : event ≠ .cycleEnd := fun same => notEnded (by simp [same])
        have quiet : event ≠ .timerCallback := fun same =>
          noTick (by simp [same])
        simp [Event.isCycleEnd, other, Ne.symm other, Ne.symm quiet]

theorem flagExplained_exec (period : UpdatePeriod) {initial : Station}
    (started : initial.Started) (actions : List Action) :
    FlagExplained ((Station.machine period).trace initial actions)
      ((Station.machine period).exec initial actions) := by
  refine (Station.machine period).historyInvariant (fun _ => True)
    FlagExplained ?_ initial ?_ actions (fun _ _ => trivial)
  · intro history station action _ explained
    cases action with
    | timerCallback => exact FlagExplained.timerCallback
    | mainStep readings => exact explained.mainStep readings
  · simp [FlagExplained, started.control, Control.initial]

theorem mem_of_mem_sinceLast {mark : Event → Bool} {history : List Event}
    {event : Event} (member : event ∈ sinceLast mark history) :
    event ∈ history := by
  induction history using List.reverseRecOn with
  | nil => simp at member
  | append_singleton earlier last induction =>
      rw [sinceLast_concat] at member
      split at member
      · simp at member
      · rcases List.mem_append.mp member with old | new
        · exact List.mem_append_left _ (induction old)
        · exact List.mem_append_right _ new

theorem tickRecorded_iff {history : List Event} {station : Station}
    (explained : FlagExplained history station) :
    TickRecorded station history ↔ TickRepeated station history := by
  constructor
  · intro recorded point ticked
    rcases explained.mp (recorded point ticked) with unended | repeated
    · have unmarked : ∀ event ∈ history, event.isCycleEnd = false := by
        intro event member
        exact decide_eq_false fun same => unended (same ▸ member)
      have whole := sinceLast_append_of_unmarked Event.isCycleEnd [] history
        unmarked
      rw [List.nil_append, sinceLast_nil, List.nil_append] at whole
      rw [TickSince, whole]
      exact mem_of_mem_sinceLast ticked
    · exact repeated
  · intro repeated point ticked
    exact explained.mpr (Or.inr (repeated point ticked))

/-- How far a run has come on its way to a full cycle since a tick. -/
inductive Towards (station : Station) (later : List Event) (steps : Nat) : Prop
  | done (cycle : List.Sublist [.cycleStart, .cycleEnd] later)
  | within (begun : .cycleStart ∈ later)
      (busy : station.control.point ≠ .testUpdateState)
      (left : station.control.remaining + steps ≤ 31)
  | before (notBegun : .cycleStart ∉ later)
      (left : station.control.point = .testUpdateState ∧ steps ≤ 15 ∨
        station.control.point ≠ .testUpdateState ∧
          station.control.remaining + steps ≤ 15)

namespace Towards

variable {period : UpdatePeriod} {station : Station} {later : List Event}
variable {steps : Nat}

theorem timerCallback (towards : Towards station later steps) :
    Towards (station.step period .timerCallback)
      (later ++ [.timerCallback]) steps := by
  cases towards with
  | done cycle => exact .done (cycle.trans (List.sublist_append_left _ _))
  | within begun busy left =>
      refine .within (List.mem_append_left _ begun) ?_ ?_
      · simpa [Control.step] using busy
      · simpa [Control.step, Control.remaining_timerCallback busy] using left
  | before notBegun left =>
      refine .before (by simpa using notBegun) ?_
      rcases left with ⟨testing, few⟩ | ⟨busy, few⟩
      · exact Or.inl ⟨by simpa [Control.step] using testing, few⟩
      · refine Or.inr ⟨by simpa [Control.step] using busy, ?_⟩
        simpa [Control.step, Control.remaining_timerCallback busy] using few

theorem mainStep (towards : Towards station later steps)
    (recorded : station.control.point = .testUpdateState →
      .cycleStart ∉ later → station.control.updateState = .updateRequest)
    (readings : Readings) :
    Towards (station.step period (.mainStep readings))
      (later ++ (station.call readings).toList) (steps + 1) := by
  have shorter := Control.remaining_next_le period station.control
  cases towards with
  | done cycle => exact .done (cycle.trans (List.sublist_append_left _ _))
  | within begun busy left =>
      have positive := Control.remaining_pos busy
      by_cases last : station.control.point = .setUpToDate
      · rw [Station.call_setUpToDate last]
        exact .done ((List.singleton_sublist.mpr begun).append
          (List.Sublist.refl [Event.cycleEnd]))
      · refine .within (List.mem_append_left _ begun) ?_ ?_
        · rw [Station.control_step]
          exact Control.point_next_of_busy busy last
        · rw [Station.control_step, Control.step]
          omega
  | before notBegun left =>
      rcases left with ⟨testing, few⟩ | ⟨busy, few⟩
      · have requested := recorded testing notBegun
        have started : station.call readings = some .cycleStart := by
          simp only [Station.call, testing, requested, if_true]
        have entered : station.control.next period =
            { station.control with point := .switchDS18B20State } := by
          simp only [Control.next, testing, requested, if_true]
        rw [started]
        refine .within (by simp) ?_ ?_
        · rw [Station.control_step, Control.step, entered]
          simp
        · rw [Station.control_step, Control.step, entered]
          simp only [Control.remaining]
          omega
      · have positive := Control.remaining_pos busy
        have notStarted := Station.cycleStart_not_called busy readings
        refine .before ?_ ?_
        · intro member
          rcases List.mem_append.mp member with old | new
          · exact notBegun old
          · exact notStarted (Option.mem_toList.mp new)
        · rw [Station.control_step, Control.step]
          by_cases last : station.control.point = .setUpToDate
          · refine Or.inl ⟨?_, by omega⟩
            simp only [Control.next, last]
          · exact Or.inr ⟨Control.point_next_of_busy busy last, by omega⟩

theorem enough (towards : Towards station later steps) (many : 31 ≤ steps) :
    List.Sublist [.cycleStart, .cycleEnd] later := by
  cases towards with
  | done cycle => exact cycle
  | within begun busy left =>
      have positive := Control.remaining_pos busy
      omega
  | before notBegun left => omega

end Towards

theorem tickSince_after {history later : List Event}
    (notBegun : .cycleStart ∉ later) :
    TickSince Event.isCycleStart (history ++ [.timerCallback] ++ later) := by
  have unmarked : ∀ event ∈ later, event.isCycleStart = false := by
    intro event member
    exact decide_eq_false fun same => notBegun (same ▸ member)
  rw [TickSince, sinceLast_append_of_unmarked _ _ _ unmarked]
  simp [Event.isCycleStart]

/-- Where every tick is recorded, the steps of two cycles bring a full one. -/
theorem towards_exec (period : UpdatePeriod) (initial : Station)
    (before after : List Action)
    (recorded : ∀ earlier, earlier <+: before ++ .timerCallback :: after →
      TickRecorded ((Station.machine period).exec initial earlier)
        ((Station.machine period).trace initial earlier)) :
    let ticked := (Station.machine period).exec initial
      (before ++ [.timerCallback])
    Towards ((Station.machine period).exec ticked after)
      ((Station.machine period).trace ticked after)
      (after.countP Action.isMainStep) := by
  intro ticked
  induction after using List.reverseRecOn with
  | nil =>
      refine .before (by simp) ?_
      by_cases testing : ticked.control.point = .testUpdateState
      · exact Or.inl ⟨testing, by simp⟩
      · exact Or.inr ⟨testing, by
          simpa using Control.remaining_le testing⟩
  | append_singleton earlier last induction =>
      have towards := induction fun prior isPrefix => recorded prior
        (isPrefix.trans ⟨[last], by simp⟩)
      rw [Machine.exec_concat, Machine.trace_concat, List.countP_append]
      cases last with
      | timerCallback => exact towards.timerCallback
      | mainStep readings =>
          refine towards.mainStep ?_ readings
          intro testing notBegun
          have here := recorded (before ++ [.timerCallback] ++ earlier)
            ⟨[.mainStep readings], by simp⟩
          rw [Machine.exec_append, Machine.trace_append,
            Machine.trace_append] at here
          exact here testing (tickSince_after notBegun)

/-- Ticks are lost exactly where one falls into a cycle and none comes between
the end of that cycle and the next test of the flag. -/
theorem requests_served_iff (period : UpdatePeriod) (initial : Station)
    (started : initial.Started) (actions : List Action) :
    RequestsServed period initial actions ↔
      ∀ earlier, earlier <+: actions →
        TickRepeated ((Station.machine period).exec initial earlier)
          ((Station.machine period).trace initial earlier) := by
  constructor
  · intro kept earlier isPrefix
    exact (tickRecorded_iff (flagExplained_exec period started earlier)).mp
      (kept.recorded earlier isPrefix)
  · intro repeated
    have recorded : ∀ earlier, earlier <+: actions →
        TickRecorded ((Station.machine period).exec initial earlier)
          ((Station.machine period).trace initial earlier) := by
      intro earlier isPrefix
      exact (tickRecorded_iff (flagExplained_exec period started earlier)).mpr
        (repeated earlier isPrefix)
    refine ⟨recorded, ?_⟩
    intro before after split many
    subst split
    exact (towards_exec period initial before after recorded).enough many

def stillStep : Action := .mainStep ⟨⟨0, 0⟩, ⟨.positive, 0, 0⟩, ⟨0, 0⟩⟩

/-- Cycles with a tick between them. -/
def timelyTick : List Action :=
  List.replicate 14 stillStep ++ .timerCallback :: List.replicate 31 stillStep

/-- The first cycle of a run, with a tick after its first step. -/
def interruptedCycle : List Action :=
  stillStep :: .timerCallback :: List.replicate 10 stillStep

theorem requests_served_iff_zeroed :
    RequestsServed .configured Station.zeroed timelyTick ∧
      ¬RequestsServed .configured Station.zeroed interruptedCycle := by
  have timely : ∀ earlier ∈ timelyTick.inits,
      TickRepeated ((Station.machine .configured).exec Station.zeroed earlier)
        ((Station.machine .configured).trace Station.zeroed earlier) := by
    decide +kernel
  have late : ¬TickRepeated
      ((Station.machine .configured).exec Station.zeroed interruptedCycle)
      ((Station.machine .configured).trace Station.zeroed
        interruptedCycle) := by
    decide +kernel
  refine ⟨(requests_served_iff .configured Station.zeroed
    Station.zeroed_started timelyTick).mpr fun earlier isPrefix =>
      timely earlier ((List.mem_inits earlier timelyTick).mpr isPrefix), ?_⟩
  intro served
  exact late ((requests_served_iff .configured Station.zeroed
    Station.zeroed_started interruptedCycle).mp served interruptedCycle
      (List.prefix_refl _))

theorem request_lost_in_interrupted_cycle :
    ¬ ∀ (period : UpdatePeriod) (initial : Station), initial.Started →
        ∀ actions, RequestsServed period initial actions := by
  intro served
  have claimed := (served UpdatePeriod.configured Station.zeroed
    Station.zeroed_started interruptedCycle).recorded interruptedCycle
    (List.prefix_refl _)
  exact absurd claimed (by decide)

end QuarkMeteoStation
