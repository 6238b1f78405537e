import QuarkMeteoStation.Main.Ticks

namespace QuarkMeteoStation

open Library

/-! Runs whose cycles keep up with the ticks: every cycle is over before the
next tick. -/

namespace Event

def isBoundary : Event → Bool
  | cycleStart | cycleEnd => true
  | _ => false

end Event

def FullCycle (cycle : List Event) : Prop :=
  cycle.filter Event.isBoundary = [.cycleStart, .cycleEnd]

/-- The cycles of a history, in the order of the ticks that end them: cycle `0`
is the initial one, cycle `n` runs between tick `n` and the next. -/
def cyclesByTick (history : List Event) : List (List Event) :=
  closedStretches Event.isTick history

namespace Control

def Ended (control : Control) : Prop :=
  control.point = .testUpdateState ∧ control.updateState = .upToDate

def Ready (control : Control) : Prop :=
  control.point = .testUpdateState ∧ control.updateState = .updateRequest

/-- The most steps the main loop takes to the end of the cycle. -/
def remaining (control : Control) : Nat :=
  match control.point with
  | .testUpdateState =>
      match control.updateState with
      | .upToDate => 0
      | .updateRequest => 16
  | .switchDS18B20State => 15
  | .getTemperature => 14
  | .requestConversion | .averageUpdateDS18B20 => 13
  | .setGetMeasurement | .setRequestConversion => 12
  | .getBMP280 => 11
  | .averageUpdateBMP280 => 10
  | .getDHT11 => 9
  | .averageUpdateDHT11 => 8
  | .switchESPState => 7
  | .incrementCounter => 6
  | .testCounter | .sendMeasurements => 5
  | .connectToServer | .setSendData | .averageReset => 4
  | .setAwaitForConnection | .clearCounter | .setIdle => 3
  | .guiUpdate => 2
  | .setUpToDate => 1

def boundaries (control : Control) : List Event :=
  match control.point with
  | .testUpdateState =>
      match control.updateState with
      | .upToDate => [.cycleStart, .cycleEnd]
      | .updateRequest => []
  | _ => [.cycleStart]

variable {period : UpdatePeriod} {control : Control}

theorem Ended.next (ended : control.Ended) (period : UpdatePeriod) :
    (control.next period).Ended := by
  obtain ⟨point, upToDate⟩ := ended
  simp only [Control.next, point, upToDate, reduceCtorEq, if_false]
  exact ⟨point, upToDate⟩

theorem ended_of_remaining (finished : control.remaining = 0) :
    control.Ended := by
  unfold remaining at finished
  unfold Ended
  cases point : control.point <;> simp_all
  cases upToDate : control.updateState <;> simp_all

theorem remaining_next_le (period : UpdatePeriod) (control : Control) :
    (control.next period).remaining ≤ control.remaining - 1 := by
  obtain ⟨point, updateState, espState, ticks, readout, counter⟩ := control
  cases point with
  | testUpdateState => cases updateState <;> simp [Control.next, remaining]
  | switchDS18B20State => cases readout <;> simp [Control.next, remaining]
  | switchESPState => cases espState <;> simp [Control.next, remaining]
  | testCounter =>
      simp only [Control.next]
      split <;> simp [remaining]
  | _ => simp [Control.next, remaining]

theorem remaining_iterate_le (period : UpdatePeriod) (control : Control)
    (steps : Nat) :
    ((Control.next period)^[steps] control).remaining ≤
      control.remaining - steps := by
  induction steps with
  | zero => exact Nat.le_refl _
  | succ steps induction =>
      rw [Function.iterate_succ_apply']
      have shorter := remaining_next_le period
        ((Control.next period)^[steps] control)
      omega

end Control

namespace Station

variable {period : UpdatePeriod}

theorem control_exec_replicate (station : Station) (readings : Readings)
    (steps : Nat) :
    ((machine period).exec station
      (List.replicate steps (.mainStep readings))).control =
        (Control.next period)^[steps] station.control := by
  induction steps generalizing station with
  | zero => rfl
  | succ steps induction =>
      rw [List.replicate_succ, Machine.exec_cons, induction]
      rfl

theorem boundaries_next (station : Station) (readings : Readings) :
    (station.control.next period).boundaries = station.control.boundaries ++
      (station.call readings).toList.filter Event.isBoundary := by
  unfold call
  cases point : station.control.point with
  | testUpdateState =>
      cases requested : station.control.updateState <;>
        simp [Control.next, point, requested, Control.boundaries,
          Event.isBoundary, List.filter_cons]
  | switchDS18B20State =>
      simp only [Control.next, point]
      split <;> simp [Control.boundaries, point]
  | switchESPState =>
      simp only [Control.next, point]
      split <;> simp [Control.boundaries, point]
  | testCounter =>
      simp only [Control.next, point]
      split <;> simp [Control.boundaries, point]
  | _ =>
      simp [Control.next, point, Control.boundaries, Event.isBoundary,
        List.filter_cons]

theorem boundaries_exec_replicate (station : Station) (readings : Readings)
    (steps : Nat) :
    ((machine period).exec station
        (List.replicate steps (.mainStep readings))).control.boundaries =
      station.control.boundaries ++ ((machine period).trace station
        (List.replicate steps (.mainStep readings))).filter Event.isBoundary := by
  induction steps generalizing station with
  | zero => simp
  | succ steps induction =>
      rw [List.replicate_succ, Machine.exec_cons, Machine.trace_cons, induction,
        List.filter_append, ← List.append_assoc]
      congr 1
      exact boundaries_next station readings

end Station

/-- Enough steps of the main loop for any cycle. -/
def cycleActions (readings : Readings) : List Action :=
  List.replicate 16 (.mainStep readings)

/-- One cycle for each of the readings, each followed by a tick. -/
def pacedRun (rounds : List Readings) : List Action :=
  rounds.flatMap fun readings => cycleActions readings ++ [.timerCallback]

theorem mem_pacedRun {rounds : List Readings} {action : Action}
    (member : action ∈ pacedRun rounds) :
    action = .timerCallback ∨ ∃ readings ∈ rounds, action = .mainStep readings := by
  obtain ⟨readings, taken, inCycle⟩ := List.mem_flatMap.mp member
  rcases List.mem_append.mp inCycle with step | tick
  · exact Or.inr ⟨readings, taken, List.eq_of_mem_replicate step⟩
  · exact Or.inl (List.mem_singleton.mp tick)

theorem cycleActions_ended (period : UpdatePeriod) (station : Station)
    (readings : Readings) :
    ((Station.machine period).exec station
      (cycleActions readings)).control.Ended := by
  apply Control.ended_of_remaining
  rw [cycleActions, Station.control_exec_replicate]
  have bound := Control.remaining_iterate_le period station.control 16
  have most : station.control.remaining ≤ 16 := by
    unfold Control.remaining
    split <;> (try split) <;> omega
  omega

theorem cycleActions_full (period : UpdatePeriod) {station : Station}
    (ready : station.control.Ready) (readings : Readings) :
    FullCycle ((Station.machine period).trace station
      (cycleActions readings)) := by
  obtain ⟨endPoint, upToDate⟩ := cycleActions_ended period station readings
  obtain ⟨point, requested⟩ := ready
  have boundaries := @Station.boundaries_exec_replicate period
    station readings 16
  rw [← cycleActions, Control.boundaries, endPoint, upToDate] at boundaries
  rw [Control.boundaries, point, requested] at boundaries
  exact boundaries.symm

theorem cycleActions_tickless (period : UpdatePeriod) (station : Station)
    (readings : Readings) :
    ∀ event ∈ (Station.machine period).trace station (cycleActions readings),
      event.isTick = false := by
  refine (Station.machine period).historyInvariant
    (fun action => action = .mainStep readings)
    (fun history _ => ∀ event ∈ history, event.isTick = false) ?_ station
    (by simp) (cycleActions readings) (fun action member =>
      List.eq_of_mem_replicate member)
  intro history state action admitted quiet event member
  subst admitted
  rcases List.mem_append.mp member with old | new
  · exact quiet event old
  · exact state.isTick_call readings event (Option.mem_toList.mp new)

theorem exec_replicate_of_ended (period : UpdatePeriod) {station : Station}
    (ended : station.control.Ended) (readings : Readings) (steps : Nat) :
    (Station.machine period).exec station
      (List.replicate steps (.mainStep readings)) = station := by
  have idle : station.step period (.mainStep readings) = station := by
    obtain ⟨point, upToDate⟩ := ended
    simp [Station.step, Control.next, Data.execute, point, upToDate]
  induction steps with
  | zero => rfl
  | succ steps induction =>
      rw [List.replicate_succ, Machine.exec_cons, Station.machine_step, idle,
        induction]

theorem control_exec_congr (period : UpdatePeriod) {left right : Station}
    (control : left.control = right.control) {actions others : List Action}
    (order : actions.map (fun action => decide (action = .timerCallback)) =
      others.map fun action => decide (action = .timerCallback)) :
    ((Station.machine period).exec left actions).control =
      ((Station.machine period).exec right others).control := by
  induction actions generalizing left right others with
  | nil =>
      rw [List.map_nil, eq_comm, List.map_eq_nil_iff] at order
      rw [order]
      exact control
  | cons action rest induction =>
      cases others with
      | nil => simp at order
      | cons other others =>
          rw [List.map_cons, List.map_cons, List.cons.injEq] at order
          have same := order.1
          rw [Machine.exec_cons, Machine.exec_cons]
          refine induction ?_ order.2
          rw [Station.machine_step, Station.control_step, Station.control_step,
            control]
          cases action <;> cases other <;> simp_all [Control.step]

/-- A paced run consists of full cycles, and is ready for the next. -/
theorem pacedRun_spec (period : UpdatePeriod) {initial : Station}
    (ready : initial.control.Ready) (rounds : List Readings) :
    let history := (Station.machine period).trace initial (pacedRun rounds)
    ((Station.machine period).exec initial (pacedRun rounds)).control.Ready ∧
      (cyclesByTick history).length = rounds.length ∧
      sinceLast Event.isTick history = [] ∧
      ∀ cycle ∈ cyclesByTick history, FullCycle cycle := by
  induction rounds using List.reverseRecOn with
  | nil => exact ⟨ready, rfl, rfl, by simp [pacedRun, cyclesByTick]⟩
  | append_singleton earlier readings induction =>
      intro history
      obtain ⟨reached, length, opened, full⟩ := induction
      let between := (Station.machine period).exec initial (pacedRun earlier)
      have tickless := cycleActions_tickless period between readings
      have split : pacedRun (earlier ++ [readings]) =
          pacedRun earlier ++ (cycleActions readings ++ [.timerCallback]) := by
        simp [pacedRun]
      have traced : history =
          ((Station.machine period).trace initial (pacedRun earlier) ++
            (Station.machine period).trace between (cycleActions readings)) ++
              [.timerCallback] := by
        simp only [history, split, Machine.trace_append, List.append_assoc]
        rfl
      have closed : cyclesByTick history =
          cyclesByTick ((Station.machine period).trace initial
            (pacedRun earlier)) ++
          [(Station.machine period).trace between (cycleActions readings)] := by
        rw [traced, cyclesByTick, closedStretches_concat,
          closedStretches_append_of_unmarked _ _ _ tickless,
          sinceLast_append_of_unmarked _ _ _ tickless, opened]
        rfl
      refine ⟨?_, ?_, ?_, ?_⟩
      · obtain ⟨point, -⟩ := cycleActions_ended period between readings
        have reached : (Station.machine period).exec initial
            (pacedRun (earlier ++ [readings])) =
              ((Station.machine period).exec between
                (cycleActions readings)).step period .timerCallback := by
          rw [split, Machine.exec_append, Machine.exec_append]
          rfl
        rw [reached, Control.Ready, Station.control_step, Control.step,
          Control.point_timerCallback, Control.updateState_timerCallback]
        exact ⟨point, rfl⟩
      · rw [closed, List.length_append, length, List.length_append]
        rfl
      · rw [traced, sinceLast_concat]
        rfl
      · rw [closed]
        intro cycle member
        rcases List.mem_append.mp member with old | new
        · exact full cycle old
        · rw [List.mem_singleton.mp new]
          exact cycleActions_full period reached readings

end QuarkMeteoStation
