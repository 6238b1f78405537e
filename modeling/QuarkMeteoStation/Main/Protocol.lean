import QuarkMeteoStation.Main.Ticks

namespace QuarkMeteoStation

open Library

/-! The upload protocol: a connection, the ticks it is given, and the
measurements sent over it. -/

def uploadCalls (history : List Event) : List UploadCall :=
  history.filterMap Event.uploadCall?

def Alternating (calls : List UploadCall) : Prop :=
  ∀ index call, calls[index]? = some call →
    (call = .connect ↔ index % 2 = 0)

theorem Alternating.concat {calls : List UploadCall} {call : UploadCall}
    (alternating : Alternating calls)
    (next : call = .connect ↔ calls.length % 2 = 0) :
    Alternating (calls ++ [call]) := by
  intro index found foundAt
  rcases Nat.lt_trichotomy index calls.length with before | at_end | after
  · rw [List.getElem?_append_left before] at foundAt
    exact alternating index found foundAt
  · subst at_end
    rw [List.getElem?_concat_length] at foundAt
    rw [← Option.some.inj foundAt]
    exact next
  · rw [List.getElem?_eq_none (by simp; omega)] at foundAt
    contradiction

namespace Control

variable {period : UpdatePeriod} {control : Control}

theorem connected_timerCallback (consistent : control.Consistent period) :
    (control.timerCallback period).connected = control.connected := by
  rcases consistent.timerCallback_cases with
    ⟨idle, bound, counted, after⟩ | ⟨idle, bound, after⟩ | ⟨busy, after⟩
  · rw [after]
    rfl
  · have elsewhere := consistent.idle_point idle
    rw [after]
    simp only [connected, idle]
    cases point : control.point <;> simp_all [Point.espState?]
  · rw [after]
    rfl

theorem connected_next (consistent : control.Consistent period) :
    (control.next period).connected =
      match control.point with
      | .connectToServer => true
      | .sendMeasurements => false
      | _ => control.connected := by
  have known := consistent.espState
  cases point : control.point <;> simp only [Control.next, point] <;>
    (try split) <;> simp_all [connected, Point.espState?, Point.sent]

theorem connected_of_sendMeasurements (consistent : control.Consistent period)
    (sending : control.point = .sendMeasurements) :
    control.connected = true := by
  have state := consistent.espState .sendData (by rw [sending]; rfl)
  simp [connected, state, sending, Point.sent]

end Control

/-- Along a history the calls alternate, and the next one is a connection
exactly while none is open. -/
structure Calls (history : List Event) (station : Station) : Prop where
  alternating : Alternating (uploadCalls history)
  parity : (uploadCalls history).length % 2 =
    if station.control.connected then 1 else 0

theorem uploadCalls_append_call (history : List Event) (station : Station)
    (readings : Readings) :
    uploadCalls (history ++ (station.call readings).toList) =
      uploadCalls history ++
        ((station.call readings).bind Event.uploadCall?).toList := by
  cases station.call readings with
  | none => simp [uploadCalls]
  | some event =>
      simp only [uploadCalls, List.filterMap_append, Option.toList_some,
        Option.bind_some]
      cases known : event.uploadCall? <;> simp [known]

theorem Calls.timerCallback {period : UpdatePeriod} {history : List Event}
    {station : Station} (calls : Calls history station)
    (consistent : station.control.Consistent period) :
    Calls (history ++ [.timerCallback])
      (station.step period .timerCallback) := by
  have unchanged : uploadCalls (history ++ [.timerCallback]) =
      uploadCalls history := by
    simp [uploadCalls, Event.uploadCall?]
  refine ⟨?_, ?_⟩
  · rw [unchanged]
    exact calls.alternating
  · rw [unchanged, Station.control_step, Control.step,
      Control.connected_timerCallback consistent]
    exact calls.parity

theorem Calls.mainStep {period : UpdatePeriod} {history : List Event}
    {station : Station} (calls : Calls history station)
    (consistent : station.control.Consistent period) (readings : Readings) :
    Calls (history ++ (station.call readings).toList)
      (station.step period (.mainStep readings)) := by
  obtain ⟨alternating, parity⟩ := calls
  have extended := uploadCalls_append_call history station readings
  have known := consistent.espState
  have next := Control.connected_next consistent
  have after : (station.step period (.mainStep readings)).control.connected =
      (station.control.next period).connected := by
    rw [Station.control_step]
    rfl
  rw [station.uploadCall_call readings] at extended
  cases point : station.control.point with
  | connectToServer =>
      have closed : station.control.connected = false := by
        simp [Control.connected, known .connectToServer (by rw [point]; rfl),
          point]
      simp only [point, Option.toList_some] at extended next
      rw [closed] at parity
      refine ⟨?_, ?_⟩
      · rw [extended]
        exact alternating.concat (by simpa using parity)
      · rw [extended, after, next, List.length_append]
        simp only [List.length_singleton, if_true]
        simp at parity
        omega
  | sendMeasurements =>
      have opened := Control.connected_of_sendMeasurements consistent point
      simp only [point, Option.toList_some] at extended next
      rw [opened] at parity
      refine ⟨?_, ?_⟩
      · rw [extended]
        exact alternating.concat (by simp [parity])
      · rw [extended, after, next, List.length_append]
        simp only [List.length_singleton]
        simp at parity ⊢
        omega
  | _ =>
      simp only [point, Option.toList_none, List.append_nil] at extended next
      exact ⟨by rw [extended]; exact alternating,
        by rw [extended, after, next]; exact parity⟩

theorem Calls.step {period : UpdatePeriod} {history : List Event}
    {station : Station} (calls : Calls history station)
    (consistent : station.control.Consistent period) (action : Action) :
    Calls (history ++ (station.event action).toList)
      (station.step period action) := by
  cases action with
  | timerCallback => exact calls.timerCallback consistent
  | mainStep readings => exact calls.mainStep consistent readings

theorem calls_exec {period : UpdatePeriod} {initial : Station}
    (started : initial.Started) (actions : List Action) :
    Calls ((Station.machine period).trace initial actions)
      ((Station.machine period).exec initial actions) := by
  have both := (Station.machine period).historyInvariant (fun _ => True)
    (fun history station => station.control.Consistent period ∧
      Calls history station)
    (fun history station action _ holds =>
      ⟨by simpa [Station.machine] using holds.1.step action,
        holds.2.step holds.1 action⟩)
    initial
    ⟨by rw [started.control]; exact Control.consistent_initial period,
      by intro index call found; simp [uploadCalls] at found,
      by rw [started.control]; rfl⟩
    actions (fun _ _ => trivial)
  exact both.2

namespace Station

/-- The only change of `ESP_state` a tick makes is the request of a
connection. -/
def TickOnlyRequests (period : UpdatePeriod) (station : Station) : Prop :=
  (station.control.timerCallback period).espState ≠ station.control.espState →
    station.control.espState = .idle ∧
      (station.control.timerCallback period).espState = .connectToServer

/-- A connection that a tick requests stays requested until it is made. -/
def RequestKept (period : UpdatePeriod) (station : Station) : Prop :=
  ∀ later : List Action,
    let requested := station.step period .timerCallback
    station.control.espState = .idle →
    requested.control.espState = .connectToServer →
    (∀ event ∈ (machine period).trace requested later,
      event.isConnect = false) →
    ((machine period).exec requested later).control.espState = .connectToServer

theorem tickOnlyRequests {period : UpdatePeriod} {station : Station}
    (consistent : station.control.Consistent period) :
    station.TickOnlyRequests period := by
  intro changed
  rcases consistent.timerCallback_cases with
    ⟨idle, bound, counted, after⟩ | ⟨idle, bound, after⟩ | ⟨busy, after⟩
  · exact absurd (by rw [after]) changed
  · exact ⟨idle, by rw [after]⟩
  · exact absurd (by rw [after]) changed

theorem request_kept_step {period : UpdatePeriod} {station : Station}
    (consistent : station.control.Consistent period)
    (requested : station.control.espState = .connectToServer)
    (elsewhere : station.control.point ≠ .setAwaitForConnection)
    (action : Action)
    (silent : ∀ event ∈ station.event action, event.isConnect = false) :
    (station.step period action).control.espState = .connectToServer ∧
      (station.step period action).control.point ≠ .setAwaitForConnection := by
  rw [control_step]
  cases action with
  | timerCallback =>
      rcases consistent.timerCallback_cases with
        ⟨idle, -⟩ | ⟨idle, -⟩ | ⟨busy, after⟩
      · rw [idle] at requested
        contradiction
      · rw [idle] at requested
        contradiction
      · rw [Control.step, after]
        exact ⟨requested, elsewhere⟩
  | mainStep readings =>
      have known := consistent.espState
      have called := station.uploadCall_call readings
      rw [requested] at known
      refine ⟨?_, ?_⟩
      · rw [Control.step, Control.espState_next]
        cases point : station.control.point <;> simp_all [Point.espState?]
      · intro awaiting
        have connecting : station.control.point = .connectToServer := by
          have edges : ∀ point : Point,
              .setAwaitForConnection ∈ point.successors →
                point = .connectToServer := by
            intro point
            cases point <;> decide
          apply edges
          rw [← awaiting]
          exact Control.next_mem_successors period station.control
        rw [connecting] at called
        obtain ⟨event, emitted, connect⟩ := Option.bind_eq_some_iff.mp called
        have quiet := silent event emitted
        simp [Event.isConnect, connect] at quiet

theorem requestKept {period : UpdatePeriod} {station : Station}
    (consistent : station.control.Consistent period) :
    station.RequestKept period := by
  intro later requested idle connecting silent
  have elsewhere : requested.control.point ≠ .setAwaitForConnection := by
    intro awaiting
    have state := consistent.espState .connectToServer (by
      rw [show station.control.point = .setAwaitForConnection by
        simpa [requested, Control.step] using awaiting]
      rfl)
    rw [idle] at state
    contradiction
  have reached : requested.control.Consistent period := by
    rw [control_step]
    exact consistent.step .timerCallback
  clear_value requested
  induction later generalizing requested with
  | nil => exact connecting
  | cons action rest induction =>
      simp only [Machine.trace_cons, List.mem_append] at silent
      obtain ⟨kept, moved⟩ := request_kept_step reached connecting elsewhere
        action (fun event emitted => silent event
          (Or.inl (Option.mem_toList.mpr emitted)))
      rw [Machine.exec_cons]
      exact induction (requested.step period action) kept
        (fun event member => silent event (Or.inr member)) moved
        (by rw [control_step]; exact reached.step action)

end Station

/-- Every connection is given its time before the measurements follow. -/
def ConnectionTimeGranted (period : UpdatePeriod) (history : List Event) :
    Prop :=
  ∀ before message between messages after,
    history = before ++ .connectToServer message ::
      (between ++ .sendMeasurements messages :: after) →
    (∀ event ∈ between, event.uploadCall? = none) →
    period.espConnectionTime ≤ between.countP Event.isTick

theorem connectionTimeGranted {period : UpdatePeriod} {initial : Station}
    (started : initial.Started) (actions : List Action) :
    ConnectionTimeGranted period
      ((Station.machine period).trace initial actions) := by
  intro before message between messages after traced quiet
  have regrouped : before ++ .connectToServer message ::
      (between ++ .sendMeasurements messages :: after) =
        (before ++ .connectToServer message :: between) ++
          .sendMeasurements messages :: after := by simp
  rw [regrouped] at traced
  obtain ⟨earlier, action, rest, -, past, emitted, -⟩ :=
    (Station.machine period).exists_step_of_trace_eq _ _ _ _ _ traced
  have consistent := Station.consistent_exec period started earlier
  obtain ⟨-, point⟩ :=
    Station.point_of_uploadCall emitted (show _ = some UploadCall.send from rfl)
  have bounded := Station.elapsed_le_ticks period started earlier
  rw [Control.elapsed_sendMeasurements consistent point, past,
    sinceLast_after_mark Event.isConnect before between _ rfl (by
      intro event member
      simp [Event.isConnect, quiet event member])] at bounded
  exact bounded

structure Control.CountersBounded (period : UpdatePeriod) (control : Control) :
    Prop where
  suspended : control.espState ≠ .idle → control.serverUpdateCounter = 0
  serverUpdateCounter : control.serverUpdateCounter.toNat <
    period.serverUpdatePeriod - period.espConnectionTime
  counter : control.point = .testUpdateState →
    control.counter.toNat < period.espConnectionTime - 1

theorem Control.Consistent.countersBounded {period : UpdatePeriod}
    {control : Control} (consistent : control.Consistent period) :
    control.CountersBounded period where
  suspended := consistent.counting
  serverUpdateCounter := consistent.serverUpdateCounter
  counter := by
    intro point
    have twoLe := period.twoLe
    have fits := consistent.counter
    rw [CounterFits, point] at fits
    simp only at fits
    split at fits
    · omega
    · rw [fits, UInt8.toNat_zero]
      omega

/-- The upload protocol is safe under every interleaving of the timer with the
main loop. -/
theorem upload_protocol_safe (period : UpdatePeriod) (initial : Station)
    (started : initial.Started) (actions : List Action) :
    let history := (Station.machine period).trace initial actions
    let station := (Station.machine period).exec initial actions
    station.TickOnlyRequests period ∧
      station.RequestKept period ∧
      Alternating (uploadCalls history) ∧
      ConnectionTimeGranted period history ∧
      station.control.CountersBounded period := by
  intro history station
  have consistent := Station.consistent_exec period started actions
  exact ⟨Station.tickOnlyRequests consistent, Station.requestKept consistent,
    (calls_exec started actions).alternating,
    connectionTimeGranted started actions, consistent.countersBounded⟩

def quickPeriod : UpdatePeriod where
  serverUpdatePeriod := 4
  espConnectionTime := 2
  twoLe := by decide
  connectionLe := by decide
  connectionLt := by decide
  periodLe := by decide

/-- Five cycles, with a tick in the midst of the first of them and one before
each of the others. -/
def firstUpload : List Action :=
  let step : Action :=
    .mainStep ⟨⟨100000, 2150⟩, ⟨.positive, 3, 50⟩, ⟨40, 21⟩⟩
  let cycle := List.replicate 15 step
  List.replicate 4 step ++ [.timerCallback] ++ cycle ++ [.timerCallback] ++
    cycle ++ [.timerCallback] ++ cycle ++ [.timerCallback] ++ cycle

theorem upload_protocol_safe_first_upload :
    uploadCalls ((Station.machine quickPeriod).trace Station.zeroed
        firstUpload) = [.connect, .send] ∧
      ((Station.machine quickPeriod).exec Station.zeroed
        firstUpload).TickOnlyRequests quickPeriod ∧
      ((Station.machine quickPeriod).exec Station.zeroed
        firstUpload).RequestKept quickPeriod ∧
      Alternating (uploadCalls ((Station.machine quickPeriod).trace
        Station.zeroed firstUpload)) ∧
      ConnectionTimeGranted quickPeriod ((Station.machine quickPeriod).trace
        Station.zeroed firstUpload) ∧
      ((Station.machine quickPeriod).exec Station.zeroed
        firstUpload).control.CountersBounded quickPeriod :=
  ⟨by decide +kernel, upload_protocol_safe quickPeriod Station.zeroed
    Station.zeroed_started firstUpload⟩

end QuarkMeteoStation
