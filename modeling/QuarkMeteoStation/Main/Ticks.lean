import QuarkMeteoStation.Main.Control

namespace QuarkMeteoStation

open Library

/-! How many ticks must have occurred, read off the control state alone. -/

inductive UploadCall
  | connect
  | send
  deriving DecidableEq, Repr

namespace Event

def uploadCall? : Event → Option UploadCall
  | connectToServer _ => some .connect
  | sendMeasurements _ => some .send
  | _ => none

def isConnect (event : Event) : Bool :=
  event.uploadCall? = some .connect

def isSend (event : Event) : Bool :=
  event.uploadCall? = some .send

def isTick (event : Event) : Bool :=
  event = .timerCallback

end Event

namespace Point

/-- A cycle is under way and `ESP_state` has not been served in it. -/
def beforeService : Point → Bool
  | switchDS18B20State | requestConversion | setGetMeasurement
  | getTemperature | averageUpdateDS18B20 | setRequestConversion
  | getBMP280 | averageUpdateBMP280 | getDHT11 | averageUpdateDHT11
  | switchESPState | incrementCounter | sendMeasurements => true
  | _ => false

/-- The measurements have been sent, but `ESP_state` still says otherwise. -/
def sent : Point → Bool
  | averageReset | setIdle => true
  | _ => false

end Point

namespace Control

/-- One while a tick has been seen that no state of the upload machine counts
yet. -/
def underway (control : Control) : Nat :=
  if control.point = .testUpdateState ∧
      control.updateState = .updateRequest then 1
  else if control.point.beforeService then 1 else 0

/-- A lower bound on the ticks since the connection was requested. -/
def elapsed (period : UpdatePeriod) (control : Control) : Nat :=
  match control.espState with
  | .idle | .connectToServer => 0
  | .awaitForConnection => control.counter.toNat + control.underway
  | .sendData =>
      if control.point.sent then 0
      else period.espConnectionTime - 1 + control.underway

/-- A lower bound on the ticks since the measurements were last sent. -/
def due (period : UpdatePeriod) (control : Control) : Nat :=
  match control.espState with
  | .idle => control.serverUpdateCounter.toNat
  | .connectToServer | .awaitForConnection =>
      period.idleTicks + control.elapsed period
  | .sendData =>
      if control.point.sent then 0
      else period.idleTicks + control.elapsed period

/-- A connection has been requested and the measurements are not yet sent. -/
def connected (control : Control) : Bool :=
  match control.espState with
  | .idle => false
  | .connectToServer => control.point = .setAwaitForConnection
  | .awaitForConnection => true
  | .sendData => !control.point.sent

variable {period : UpdatePeriod} {control : Control}

theorem underway_timerCallback_le (control : Control)
    (period : UpdatePeriod) :
    (control.timerCallback period).underway ≤ control.underway + 1 := by
  simp only [underway, point_timerCallback]
  split <;> split <;> omega

theorem elapsed_timerCallback_le (consistent : control.Consistent period) :
    (control.timerCallback period).elapsed period ≤
      control.elapsed period + 1 := by
  have risen := control.underway_timerCallback_le period
  rcases consistent.timerCallback_cases with
    ⟨idle, bound, counted, after⟩ | ⟨idle, bound, after⟩ | ⟨busy, after⟩
  · simp [after, elapsed, idle]
  · simp [after, elapsed]
  · rw [after] at risen ⊢
    obtain ⟨point, updateState, espState, ticks, readout, counter⟩ := control
    dsimp only at risen
    cases espState with
    | idle => exact absurd rfl busy
    | connectToServer => exact Nat.zero_le _
    | awaitForConnection =>
        simp only [elapsed]
        omega
    | sendData =>
        simp only [elapsed]
        split <;> omega

theorem due_timerCallback_le (consistent : control.Consistent period) :
    (control.timerCallback period).due period ≤ control.due period + 1 := by
  have risen := elapsed_timerCallback_le consistent
  rcases consistent.timerCallback_cases with
    ⟨idle, bound, counted, after⟩ | ⟨idle, bound, after⟩ | ⟨busy, after⟩
  · simp [after, due, idle, counted]
  · simp only [after, due, elapsed, idle]
    omega
  · rw [after] at risen ⊢
    obtain ⟨point, updateState, espState, ticks, readout, counter⟩ := control
    dsimp only at risen
    cases espState with
    | idle => exact absurd rfl busy
    | connectToServer | awaitForConnection =>
        simp only [due]
        omega
    | sendData =>
        simp only [due]
        split <;> omega

/-- A step of the main loop moves a tick from `underway` to a counter, but
never invents one. -/
theorem elapsed_next_le (consistent : control.Consistent period) :
    (control.next period).elapsed period ≤ control.elapsed period := by
  have known := consistent.espState
  have fits := consistent.counter
  have counted := consistent.incrementCounter
  cases point : control.point <;> simp only [Control.next, point] <;>
    (try split) <;>
    simp_all [elapsed, underway, Point.espState?, Point.beforeService,
      Point.sent, CounterFits]
  exact Nat.mod_le _ _

theorem due_next_le (consistent : control.Consistent period) :
    (control.next period).due period ≤ control.due period := by
  have moved := elapsed_next_le consistent
  have known := consistent.espState
  have uncounted := consistent.counting
  obtain ⟨point, updateState, espState, ticks, readout, counter⟩ := control
  revert moved
  cases point <;> cases espState <;> simp only [Control.next] <;>
    (try split) <;> simp_all [due, Point.espState?, Point.sent]

theorem elapsed_sendMeasurements (consistent : control.Consistent period)
    (point : control.point = .sendMeasurements) :
    control.elapsed period = period.espConnectionTime := by
  have twoLe := period.twoLe
  have sending := consistent.espState .sendData (by rw [point]; rfl)
  simp [elapsed, underway, sending, point, Point.sent, Point.beforeService]
  omega

theorem due_sendMeasurements (consistent : control.Consistent period)
    (point : control.point = .sendMeasurements) :
    control.due period = period.serverUpdatePeriod := by
  have connectionLt := period.connectionLt
  have sending := consistent.espState .sendData (by rw [point]; rfl)
  simp only [due, sending, elapsed_sendMeasurements consistent point]
  simp [point, Point.sent, UpdatePeriod.idleTicks]
  omega

end Control

namespace Station

variable {period : UpdatePeriod} {station : Station}

theorem uploadCall_call (readings : Readings) :
    (station.call readings).bind Event.uploadCall? =
      match station.control.point with
      | .connectToServer => some .connect
      | .sendMeasurements => some .send
      | _ => none := by
  unfold call
  cases station.control.point <;> simp only [Option.bind_none] <;>
    (try split) <;> rfl

theorem isTick_call (readings : Readings) :
    ∀ event ∈ station.call readings, event.isTick = false := by
  unfold call
  cases station.control.point <;> simp [Event.isTick]

theorem point_of_uploadCall {action : Action} {event : Event} {call : UploadCall}
    (emitted : station.event action = some event)
    (called : event.uploadCall? = some call) :
    (∃ readings, action = .mainStep readings) ∧
      station.control.point =
        match call with
        | .connect => .connectToServer
        | .send => .sendMeasurements := by
  cases action with
  | timerCallback =>
      cases Option.some.inj emitted
      simp [Event.uploadCall?] at called
  | mainStep readings =>
      refine ⟨⟨readings, rfl⟩, ?_⟩
      have known := @uploadCall_call station readings
      rw [show station.call readings = some event from emitted,
        Option.bind_some, called] at known
      cases call <;> cases point : station.control.point <;> simp_all

theorem measure_step_le {measure : Control → Nat} {action : Action}
    (timer : measure (station.control.timerCallback period) ≤
      measure station.control + 1)
    (next : measure (station.control.next period) ≤ measure station.control) :
    measure (station.step period action).control ≤ measure station.control +
      ((station.event action).toList).countP Event.isTick := by
  cases action with
  | timerCallback => simpa [event, Event.isTick, Control.step] using timer
  | mainStep readings =>
      exact Nat.le_trans next (Nat.le_add_right _ _)

theorem elapsed_after_connect {action : Action} {event : Event}
    (consistent : station.control.Consistent period)
    (emitted : station.event action = some event)
    (connecting : event.isConnect = true) :
    (station.step period action).control.elapsed period = 0 := by
  obtain ⟨⟨readings, rfl⟩, point⟩ :=
    point_of_uploadCall emitted (of_decide_eq_true connecting)
  have state := consistent.espState .connectToServer (by rw [point]; rfl)
  rw [control_step]
  simp only [Control.step, Control.next, point, Control.elapsed, state]

theorem due_after_send {action : Action} {event : Event}
    (consistent : station.control.Consistent period)
    (emitted : station.event action = some event)
    (sending : event.isSend = true) :
    (station.step period action).control.due period = 0 := by
  obtain ⟨⟨readings, rfl⟩, point⟩ :=
    point_of_uploadCall emitted (of_decide_eq_true sending)
  have state := consistent.espState .sendData (by rw [point]; rfl)
  rw [control_step]
  simp [Control.step, Control.next, point, Control.due, state, Point.sent]

theorem elapsed_counted (period : UpdatePeriod) :
    (machine period).Counted (fun station => station.control.elapsed period)
      Event.isConnect Event.isTick
      (fun station => station.control.Consistent period) where
  preserved := by
    intro station action consistent
    simpa [machine] using consistent.step action
  cleared := by
    intro station action event consistent emitted connecting
    exact elapsed_after_connect consistent emitted connecting
  rises := by
    intro station action consistent
    exact measure_step_le (Control.elapsed_timerCallback_le consistent)
      (Control.elapsed_next_le consistent)

theorem due_counted (period : UpdatePeriod) :
    (machine period).Counted (fun station => station.control.due period)
      Event.isSend Event.isTick
      (fun station => station.control.Consistent period) where
  preserved := (elapsed_counted period).preserved
  cleared := by
    intro station action event consistent emitted sending
    exact due_after_send consistent emitted sending
  rises := by
    intro station action consistent
    exact measure_step_le (Control.due_timerCallback_le consistent)
      (Control.due_next_le consistent)

theorem elapsed_le_ticks (period : UpdatePeriod) {initial : Station}
    (started : initial.Started)
    (actions : List Action) :
    ((machine period).exec initial actions).control.elapsed period ≤
      (sinceLast Event.isConnect
        ((machine period).trace initial actions)).countP Event.isTick := by
  apply (elapsed_counted period).le_count initial
  · rw [started.control]
    exact Control.consistent_initial period
  · rw [started.control]
    rfl

theorem serverUpdatePeriod_le_ticks (period : UpdatePeriod) {initial : Station}
    (started : initial.Started) (actions : List Action) :
    ∀ stretch ∈ closedStretches Event.isSend
        ((machine period).trace initial actions),
      period.serverUpdatePeriod ≤ stretch.countP Event.isTick := by
  apply (due_counted period).bound_le_count period.serverUpdatePeriod
  · intro station action event consistent emitted sending
    obtain ⟨-, point⟩ :=
      point_of_uploadCall emitted (of_decide_eq_true sending)
    exact Nat.le_of_eq (Control.due_sendMeasurements consistent point).symm
  · rw [started.control]
    exact Control.consistent_initial period
  · rw [started.control]
    rfl

end Station

end QuarkMeteoStation
