import QuarkMeteoStation.Main.PacedRun

namespace QuarkMeteoStation

open Library

/-! The upload schedule of a run whose cycles keep up with the ticks.  The
position in the schedule is the number of ticks since the last upload was due,
and whether this is the first period, which no upload opens. -/

namespace Control

def AtStart (period : UpdatePeriod) (position : Nat) (first : Bool)
    (espState : ESPTransmissionState) (serverUpdateCounter : UInt16)
    (counter : UInt8) : Prop :=
  match espState with
  | .idle => position < period.idleTicks ∧
      serverUpdateCounter.toNat = position ∧ (position = 0 → first = true)
  | .connectToServer => position = period.idleTicks
  | .awaitForConnection => period.idleTicks < position ∧
      counter.toNat + period.idleTicks + 1 = position
  | .sendData => position = 0 ∧ first = false

def AtEnd (period : UpdatePeriod) (position : Nat)
    (espState : ESPTransmissionState) (serverUpdateCounter : UInt16)
    (counter : UInt8) : Prop :=
  match espState with
  | .idle => position < period.idleTicks ∧
      serverUpdateCounter.toNat = position
  | .connectToServer => False
  | .awaitForConnection => counter.toNat + period.idleTicks = position ∧
      position + 1 < period.serverUpdatePeriod
  | .sendData => position + 1 = period.serverUpdatePeriod

def InCycle (period : UpdatePeriod) (position : Nat) (first : Bool)
    (control : Control) : Prop :=
  match control.point with
  | .testUpdateState =>
      match control.updateState with
      | .updateRequest => AtStart period position first control.espState
          control.serverUpdateCounter control.counter
      | .upToDate => AtEnd period position control.espState
          control.serverUpdateCounter control.counter
  | .guiUpdate | .setUpToDate => AtEnd period position control.espState
      control.serverUpdateCounter control.counter
  | .connectToServer | .setAwaitForConnection => position = period.idleTicks
  | .testCounter => period.idleTicks < position ∧
      control.counter.toNat + period.idleTicks = position
  | .setSendData | .clearCounter =>
      position + 1 = period.serverUpdatePeriod
  | .sendMeasurements | .averageReset | .setIdle =>
      position = 0 ∧ first = false
  | _ => AtStart period position first control.espState
      control.serverUpdateCounter control.counter

variable {period : UpdatePeriod} {control : Control} {position : Nat}
  {first : Bool}

theorem idleTicks_add (period : UpdatePeriod) :
    period.idleTicks + period.espConnectionTime =
      period.serverUpdatePeriod := by
  have connectionLt := period.connectionLt
  unfold UpdatePeriod.idleTicks
  omega

theorem InCycle.next (inCycle : control.InCycle period position first)
    (consistent : control.Consistent period) :
    (control.next period).InCycle period position first := by
  have known := consistent.espState
  have fits := consistent.counter
  have counted := consistent.incrementCounter
  have uncounted := consistent.counting
  have connectionLt := period.connectionLt
  have twoLe := period.twoLe
  have total := idleTicks_add period
  unfold InCycle at inCycle
  cases point : control.point <;>
    simp only [Control.next, point] at inCycle ⊢ <;> (try split) <;>
    simp_all [InCycle, AtStart, AtEnd, Point.espState?, CounterFits] <;>
    omega

theorem AtEnd.timerCallback
    (atEnd : AtEnd period position control.espState
      control.serverUpdateCounter control.counter)
    (consistent : control.Consistent period) :
    let after := control.timerCallback period
    AtStart period
      (if position + 1 = period.serverUpdatePeriod then 0 else position + 1)
      false after.espState after.serverUpdateCounter after.counter := by
  have connectionLt := period.connectionLt
  have twoLe := period.twoLe
  have total := idleTicks_add period
  rcases consistent.timerCallback_cases with
    ⟨idle, bound, counted, after⟩ | ⟨idle, bound, after⟩ | ⟨busy, after⟩
  · rw [after]
    simp only [idle, AtEnd] at atEnd
    simp only [idle, AtStart, counted]
    rw [if_neg (by omega)]
    omega
  · rw [after]
    simp only [idle, AtEnd] at atEnd
    simp only [AtStart]
    rw [if_neg (by omega)]
    omega
  · rw [after]
    cases state : control.espState with
    | idle => exact absurd state busy
    | connectToServer => simp [state, AtEnd] at atEnd
    | awaitForConnection =>
        simp only [state, AtEnd] at atEnd
        simp only [AtStart]
        rw [if_neg (by omega)]
        omega
    | sendData =>
        simp only [state, AtEnd] at atEnd
        simp only [AtStart]
        rw [if_pos atEnd]
        exact ⟨rfl, trivial⟩

def served (control : Control) : Bool :=
  match control.point with
  | .testUpdateState => control.updateState = .upToDate
  | .setAwaitForConnection | .averageReset | .setIdle | .guiUpdate
  | .setUpToDate => true
  | _ => false

def sends (position : Nat) (first : Bool) : Bool :=
  position = 0 && !first

theorem InCycle.sends_next (inCycle : control.InCycle period position first)
    (consistent : control.Consistent period) :
    (sends position first && (control.next period).served) =
      ((sends position first && control.served) ||
        decide (control.point = .sendMeasurements)) := by
  have known := consistent.espState
  have connectionLt := period.connectionLt
  have twoLe := period.twoLe
  have total := idleTicks_add period
  unfold InCycle at inCycle
  cases point : control.point <;>
    simp only [Control.next, point] at inCycle ⊢ <;> (try split) <;>
    simp_all [served, sends, AtStart, Point.espState?] <;>
    omega

theorem InCycle.connects_next (inCycle : control.InCycle period position first)
    (consistent : control.Consistent period) :
    (decide (position = period.idleTicks) && (control.next period).served) =
      ((decide (position = period.idleTicks) && control.served) ||
        decide (control.point = .connectToServer)) := by
  have known := consistent.espState
  have connectionLt := period.connectionLt
  have twoLe := period.twoLe
  have total := idleTicks_add period
  unfold InCycle at inCycle
  cases point : control.point <;>
    simp only [Control.next, point] at inCycle ⊢ <;> (try split) <;>
    simp_all [served, AtStart, Point.espState?] <;>
    omega

end Control

/-- The cycle of a tick sends and connects when the schedule says so. -/
def OnSchedule (period : UpdatePeriod) (tick : Nat) (cycle : List Event) :
    Prop :=
  (cycle.any Event.isSend = true ↔
      0 < tick ∧ period.serverUpdatePeriod ∣ tick) ∧
    (cycle.any Event.isConnect = true ↔
      0 < tick + period.espConnectionTime ∧
        period.serverUpdatePeriod ∣ tick + period.espConnectionTime)

/-- What is known while the cycle at a position is running. -/
structure Progress (period : UpdatePeriod) (position : Nat) (first : Bool)
    (events : List Event) (control : Control) : Prop where
  inCycle : control.InCycle period position first
  sent : events.any Event.isSend =
    (Control.sends position first && control.served)
  connected : events.any Event.isConnect =
    (decide (position = period.idleTicks) && control.served)
  ended : .cycleEnd ∈ events → control.Ended

namespace Station

variable {station : Station}

theorem any_uploadCall_call (readings : Readings) (wanted : UploadCall) :
    (station.call readings).toList.any
        (fun event => decide (event.uploadCall? = some wanted)) =
      decide (station.control.point =
        match wanted with
        | .connect => .connectToServer
        | .send => .sendMeasurements) := by
  have called := station.uploadCall_call readings
  cases emitted : station.call readings with
  | none =>
      rw [emitted, Option.bind_none] at called
      cases wanted <;> cases point : station.control.point <;> simp_all
  | some event =>
      rw [emitted, Option.bind_some] at called
      simp only [Option.toList_some, List.any_cons, List.any_nil,
        Bool.or_false, called]
      cases wanted <;> cases station.control.point <;> rfl

theorem any_isSend_call (readings : Readings) :
    (station.call readings).toList.any Event.isSend =
      decide (station.control.point = .sendMeasurements) :=
  any_uploadCall_call readings .send

theorem any_isConnect_call (readings : Readings) :
    (station.call readings).toList.any Event.isConnect =
      decide (station.control.point = .connectToServer) :=
  any_uploadCall_call readings .connect

theorem point_of_cycleEnd {readings : Readings}
    (emitted : station.call readings = some .cycleEnd) :
    station.control.point = .setUpToDate := by
  revert emitted
  unfold call
  cases station.control.point <;> simp

end Station

theorem Progress.mainStep {period : UpdatePeriod} {position : Nat}
    {first : Bool} {events : List Event} {station : Station}
    (progress : Progress period position first events station.control)
    (consistent : station.control.Consistent period) (readings : Readings) :
    Progress period position first
      (events ++ (station.call readings).toList)
      (station.control.next period) where
  inCycle := progress.inCycle.next consistent
  sent := by
    rw [List.any_append, progress.sent, Station.any_isSend_call,
      progress.inCycle.sends_next consistent]
  connected := by
    rw [List.any_append, progress.connected, Station.any_isConnect_call,
      progress.inCycle.connects_next consistent]
  ended := by
    intro member
    rcases List.mem_append.mp member with old | new
    · exact (progress.ended old).next period
    · have point := Station.point_of_cycleEnd (Option.mem_toList.mp new)
      simp [Control.next, point, Control.Ended]

theorem succ_mod_serverUpdatePeriod (period : UpdatePeriod) (tick : Nat) :
    (tick + 1) % period.serverUpdatePeriod =
      if tick % period.serverUpdatePeriod + 1 = period.serverUpdatePeriod then 0
      else tick % period.serverUpdatePeriod + 1 := by
  have connectionLt := period.connectionLt
  have twoLe := period.twoLe
  have position := Nat.mod_lt tick (show 0 < period.serverUpdatePeriod by omega)
  rw [Nat.add_mod, Nat.mod_eq_of_lt (show 1 < period.serverUpdatePeriod by
    omega)]
  split
  · rename_i last
    rw [last, Nat.mod_self]
  · exact Nat.mod_eq_of_lt (by omega)

theorem mod_eq_idleTicks_iff (period : UpdatePeriod) (tick : Nat) :
    tick % period.serverUpdatePeriod = period.idleTicks ↔
      period.serverUpdatePeriod ∣ tick + period.espConnectionTime := by
  have total := Control.idleTicks_add period
  have connectionLt := period.connectionLt
  have twoLe := period.twoLe
  have position := Nat.mod_lt tick (show 0 < period.serverUpdatePeriod by omega)
  rw [Nat.dvd_iff_mod_eq_zero, Nat.add_mod,
    Nat.mod_eq_of_lt period.connectionLt]
  constructor
  · intro due
    rw [due, total, Nat.mod_self]
  · intro divides
    by_cases before :
        tick % period.serverUpdatePeriod + period.espConnectionTime <
          period.serverUpdatePeriod
    · rw [Nat.mod_eq_of_lt before] at divides
      omega
    · rw [Nat.mod_eq_sub_mod (by omega), Nat.mod_eq_of_lt (by omega)] at divides
      omega

theorem Progress.timerCallback {period : UpdatePeriod} {tick : Nat}
    {cycle : List Event} {control : Control}
    (progress : Progress period (tick % period.serverUpdatePeriod)
      (decide (tick = 0)) cycle control)
    (consistent : control.Consistent period) (full : FullCycle cycle) :
    OnSchedule period tick cycle ∧
      Progress period ((tick + 1) % period.serverUpdatePeriod)
        (decide (tick + 1 = 0)) [] (control.timerCallback period) := by
  have twoLe := period.twoLe
  have finished : .cycleEnd ∈ cycle := by
    have member : Event.cycleEnd ∈ cycle.filter Event.isBoundary := by
      rw [full]
      simp
    exact (List.mem_filter.mp member).1
  obtain ⟨point, upToDate⟩ := progress.ended finished
  have served : control.served = true := by
    simp [Control.served, point, upToDate]
  have atEnd := progress.inCycle
  rw [Control.InCycle, point, upToDate] at atEnd
  have atStart := Control.AtEnd.timerCallback atEnd consistent
  refine ⟨⟨?_, ?_⟩, ?_, ?_, ?_, by simp⟩
  · rw [progress.sent, served, Bool.and_true, Control.sends,
      Nat.dvd_iff_mod_eq_zero]
    simp
    omega
  · rw [progress.connected, served, Bool.and_true, ← mod_eq_idleTicks_iff]
    simp
    omega
  · rw [Control.InCycle, Control.point_timerCallback, point,
      Control.updateState_timerCallback, succ_mod_serverUpdatePeriod]
    exact atStart
  · simp [Control.served, point]
  · simp [Control.served, point]

def Scheduled (period : UpdatePeriod) (history : List Event)
    (station : Station) : Prop :=
  (∀ cycle ∈ closedStretches Event.isTick history, FullCycle cycle) →
    (∀ tick cycle,
      (closedStretches Event.isTick history)[tick]? = some cycle →
        OnSchedule period tick cycle) ∧
    Progress period
      ((closedStretches Event.isTick history).length %
        period.serverUpdatePeriod)
      (decide ((closedStretches Event.isTick history).length = 0))
      (sinceLast Event.isTick history) station.control

theorem Scheduled.step {period : UpdatePeriod} {history : List Event}
    {station : Station} (scheduled : Scheduled period history station)
    (consistent : station.control.Consistent period) (action : Action) :
    Scheduled period (history ++ (station.event action).toList)
      (station.step period action) := by
  cases action with
  | timerCallback =>
      intro full
      simp only [Station.event, Option.toList_some, closedStretches_concat,
        sinceLast_concat, Event.isTick, decide_true, if_true] at full ⊢
      obtain ⟨earlier, progress⟩ := scheduled fun cycle member =>
        full cycle (List.mem_append_left _ member)
      obtain ⟨onSchedule, next⟩ := progress.timerCallback consistent
        (full _ (List.mem_append_right _ (List.mem_singleton_self _)))
      rw [List.length_append, List.length_singleton]
      refine ⟨?_, next⟩
      intro tick cycle found
      rcases Nat.lt_trichotomy tick
        (closedStretches Event.isTick history).length with
        before | last | after
      · rw [List.getElem?_append_left before] at found
        exact earlier tick cycle found
      · subst last
        rw [List.getElem?_concat_length] at found
        rw [← Option.some.inj found]
        exact onSchedule
      · rw [List.getElem?_eq_none (by simp; omega)] at found
        contradiction
  | mainStep readings =>
      have quiet : ∀ event ∈ (station.call readings).toList,
          event.isTick = false := fun event member =>
        station.isTick_call readings event (Option.mem_toList.mp member)
      have closed := closedStretches_append_of_unmarked Event.isTick history _
        quiet
      have current := sinceLast_append_of_unmarked Event.isTick history _ quiet
      intro full
      rw [Station.event] at full ⊢
      rw [closed] at full ⊢
      rw [current]
      obtain ⟨earlier, progress⟩ := scheduled full
      exact ⟨earlier, progress.mainStep consistent readings⟩

theorem scheduled_exec (period : UpdatePeriod) {initial : Station}
    (started : initial.Started) (actions : List Action) :
    Scheduled period ((Station.machine period).trace initial actions)
      ((Station.machine period).exec initial actions) := by
  have both := (Station.machine period).historyInvariant (fun _ => True)
    (fun history station => station.control.Consistent period ∧
      Scheduled period history station)
    (fun history station action _ holds =>
      ⟨by simpa [Station.machine] using holds.1.step action,
        holds.2.step holds.1 action⟩)
    initial
    (by
      rw [Scheduled, started.control]
      refine ⟨Control.consistent_initial period, fun _ => ⟨by simp, ?_⟩⟩
      have positive : 0 < period.idleTicks :=
        Nat.sub_pos_of_lt period.connectionLt
      refine ⟨?_, ?_, ?_, by simp⟩
      · simp [Control.InCycle, Control.initial, Control.AtStart, positive]
      · simp [Control.served, Control.initial]
      · simp [Control.served, Control.initial])
    actions (fun _ _ => trivial)
  exact both.2

/-- The upload period is exact when the cycles keep up with the ticks, and no
interleaving shortens it. -/
theorem upload_period_exact (period : UpdatePeriod) (initial : Station)
    (started : initial.Started) (actions : List Action) :
    let history := (Station.machine period).trace initial actions
    (∀ stretch ∈ closedStretches Event.isSend history,
        period.serverUpdatePeriod ≤ stretch.countP Event.isTick) ∧
      ((∀ cycle ∈ cyclesByTick history, FullCycle cycle) →
        ∀ tick cycle, (cyclesByTick history)[tick]? = some cycle →
          OnSchedule period tick cycle) :=
  ⟨Station.serverUpdatePeriod_le_ticks period started actions,
    fun full => (scheduled_exec period started actions full).1⟩

theorem Station.Started.ready {initial : Station}
    (started : initial.Started) : initial.control.Ready := by
  rw [started.control]
  exact ⟨rfl, rfl⟩

theorem upload_period_exact_two_periods :
    ∃ cycle, (cyclesByTick ((Station.machine .configured).trace
        Station.zeroed (pacedRun (List.replicate 8000
          ⟨⟨100000, 2150⟩, ⟨.positive, 7, 50⟩, ⟨40, 21⟩⟩))))[7200]? =
          some cycle ∧
      OnSchedule .configured 7200 cycle := by
  let rounds : List Readings := List.replicate 8000
    ⟨⟨100000, 2150⟩, ⟨.positive, 7, 50⟩, ⟨40, 21⟩⟩
  obtain ⟨-, length, -, full⟩ :=
    pacedRun_spec .configured Station.zeroed_started.ready rounds
  have taken : 7200 < (cyclesByTick ((Station.machine .configured).trace
      Station.zeroed (pacedRun rounds))).length := by
    rw [length, List.length_replicate]
    decide
  exact ⟨_, List.getElem?_eq_getElem taken,
    (upload_period_exact .configured Station.zeroed Station.zeroed_started
      (pacedRun rounds)).2 full 7200 _ (List.getElem?_eq_getElem taken)⟩

theorem pacedRun_sendData (period : UpdatePeriod) {initial : Station}
    (started : initial.Started) {rounds : List Readings}
    (nonempty : rounds ≠ [])
    (whole : period.serverUpdatePeriod ∣ rounds.length) :
    ((Station.machine period).exec initial
      (pacedRun rounds)).control.espState = .sendData := by
  obtain ⟨⟨point, requested⟩, length, -, full⟩ :=
    pacedRun_spec period started.ready rounds
  have progress := (scheduled_exec period started (pacedRun rounds) full).2
  rw [← cyclesByTick, length, Nat.mod_eq_zero_of_dvd whole] at progress
  have atStart := progress.inCycle
  have positive : 0 < period.idleTicks := Nat.sub_pos_of_lt period.connectionLt
  have later : rounds.length ≠ 0 := by simpa using nonempty
  rw [Control.InCycle, point, requested] at atStart
  simp only [Control.AtStart, decide_eq_false later] at atStart
  cases state : ((Station.machine period).exec initial
      (pacedRun rounds)).control.espState with
  | sendData => rfl
  | idle => simp [state] at atStart
  | connectToServer => simp [state] at atStart; omega
  | awaitForConnection => simp [state] at atStart

theorem Control.Ready.reaches_send {control : Control}
    (ready : control.Ready) (period : UpdatePeriod)
    (sending : control.espState = .sendData) :
    ∃ steps ≤ 10, ((Control.next period)^[steps] control).point =
      .sendMeasurements := by
  obtain ⟨point, updateState, espState, ticks, readout, counter⟩ := control
  obtain ⟨rfl, rfl⟩ := ready
  cases sending
  cases readout with
  | requestConversion => exact ⟨9, by decide, rfl⟩
  | getMeasurement => exact ⟨10, by decide, rfl⟩

theorem exists_send (period : UpdatePeriod) {initial : Station}
    (started : initial.Started) {rounds : List Readings}
    (nonempty : rounds ≠ [])
    (whole : period.serverUpdatePeriod ∣ rounds.length)
    (readings : Readings) :
    ∃ steps ≤ 10, ((Station.machine period).exec initial (pacedRun rounds ++
      List.replicate steps (.mainStep readings))).control.point =
        .sendMeasurements := by
  obtain ⟨ready, -⟩ := pacedRun_spec period started.ready rounds
  obtain ⟨steps, few, reached⟩ := ready.reaches_send period
    (pacedRun_sendData period started nonempty whole)
  refine ⟨steps, few, ?_⟩
  rw [Machine.exec_append, Station.control_exec_replicate]
  exact reached

end QuarkMeteoStation
