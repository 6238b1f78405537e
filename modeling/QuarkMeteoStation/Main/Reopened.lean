import QuarkMeteoStation.Main.Uploads

namespace QuarkMeteoStation

open Library

/-! Runs that start their next window, and what two of them publish over it. -/

/-- The state a cycle that has sent its measurements ends in. -/
def JustUploaded (period : UpdatePeriod) (station : Station) : Prop :=
  ∃ initial earlier before messages rest readings,
    initial.Started ∧
    (Station.machine period).trace initial earlier =
      before ++ .sendMeasurements messages :: rest ∧
    .cycleStart ∉ rest ∧
    ((Station.machine period).exec initial earlier).control.point =
      .setUpToDate ∧
    station = ((Station.machine period).exec initial earlier).step period
      (.mainStep readings)

theorem Ledger.sent_foldl {ledger : Ledger} (sent : ledger.sent = true)
    {rest : List Event} (sameCycle : .cycleStart ∉ rest) :
    (rest.foldl Ledger.observe ledger).sent = true := by
  induction rest generalizing ledger with
  | nil => exact sent
  | cons event rest induction =>
      rw [List.mem_cons, not_or] at sameCycle
      refine induction ?_ sameCycle.2
      cases event with
      | cycleStart => exact absurd rfl sameCycle.1
      | _ => first | rfl | exact sent

theorem ledger_sent {before rest : List Event} {messages : List (List UInt8)}
    (sameCycle : .cycleStart ∉ rest) :
    (ledger (before ++ .sendMeasurements messages :: rest)).sent = true := by
  rw [ledger_append, List.foldl_cons]
  exact Ledger.sent_foldl rfl sameCycle

/-- A run starts its next window with empty books. -/
structure Reopened (period : UpdatePeriod) (station : Station) : Prop where
  point : station.control.point = .testUpdateState
  consistent : station.control.Consistent period
  accounts : station.data.averages.Accounts Window.empty
  pace : Pace period station.control Window.empty

theorem JustUploaded.reopened {period : UpdatePeriod} {station : Station}
    (uploaded : JustUploaded period station) : Reopened period station := by
  obtain ⟨initial, earlier, before, messages, rest, readings, started, traced,
    sameCycle, point, rfl⟩ := uploaded
  have consistent := Station.consistent_exec period started earlier
  have books := books_exec period started earlier
  have pace := pace_exec period started earlier
  have empty : accounted ((Station.machine period).trace initial earlier) =
      Window.empty := by
    have sent : (ledger ((Station.machine period).trace initial
        earlier)).sent = true := by
      rw [traced]
      exact ledger_sent sameCycle
    rcases books.fed.uploaded sent with ⟨reset, -⟩ | ⟨-, empty⟩
    · rw [point] at reset
      contradiction
    · exact empty
  have silent : (((Station.machine period).exec initial earlier).call
      readings).toList = [.cycleEnd] := by
    simp [Station.call, point]
  refine ⟨?_, ?_, ?_, ?_⟩
  · rw [Station.control_step]
    simp [Control.step, Control.next, point]
  · rw [Station.control_step]
    exact consistent.step _
  · have accounts := @Station.accounts_step period _ _ books.accounts
      (.mainStep readings)
    rw [empty, Station.event, silent] at accounts
    exact accounts
  · have next := pace.mainStep consistent readings
    rw [empty, silent] at next
    exact next

theorem observe_call_eq {left right : Station}
    (control : left.control = right.control) (readings : Readings)
    (ledger : Ledger) :
    (left.call readings).toList.foldl Ledger.observe ledger =
      (right.call readings).toList.foldl Ledger.observe ledger := by
  unfold Station.call
  rw [control]
  cases right.control.point with
  | testUpdateState => rfl
  | _ =>
      simp only [Option.toList_some, Option.toList_none, List.foldl_cons,
        List.foldl_nil, Ledger.observe, Window.observe]

theorem lockstep {period : UpdatePeriod} {left right : Station}
    (control : left.control = right.control) (actions : List Action)
    (ledger : Ledger) :
    let ofLeft := (Station.machine period).trace left actions
    let ofRight := (Station.machine period).trace right actions
    ((Station.machine period).exec left actions).control =
        ((Station.machine period).exec right actions).control ∧
      ofLeft.foldl Ledger.observe ledger =
        ofRight.foldl Ledger.observe ledger ∧
      ofLeft.any Event.isSend = ofRight.any Event.isSend := by
  induction actions generalizing left right ledger with
  | nil => exact ⟨control, rfl, rfl⟩
  | cons action rest induction =>
      have next : (left.step period action).control =
          (right.step period action).control := by
        rw [Station.control_step, Station.control_step, control]
      have observed : (left.event action).toList.foldl Ledger.observe ledger =
          (right.event action).toList.foldl Ledger.observe ledger := by
        cases action with
        | timerCallback => rfl
        | mainStep readings => exact observe_call_eq control readings ledger
      have sends : (left.event action).toList.any Event.isSend =
          (right.event action).toList.any Event.isSend := by
        cases action with
        | timerCallback => rfl
        | mainStep readings =>
            rw [Station.event, Station.event, Station.any_isSend_call,
              Station.any_isSend_call, control]
      obtain ⟨reached, folded, sent⟩ := induction next
        ((right.event action).toList.foldl Ledger.observe ledger)
      refine ⟨reached, ?_, ?_⟩
      · rw [Machine.trace_cons, Machine.trace_cons, List.foldl_append,
          List.foldl_append]
        rw [← observed] at folded
        exact folded.trans (by rw [observed]; rfl)
      · rw [Machine.trace_cons, Machine.trace_cons, List.any_append,
          List.any_append]
        exact congrArg₂ _ sends sent

theorem ledger_unsent {history : List Event}
    (unsent : ∀ event ∈ history, event.isSend = false) :
    (ledger history).sent = false ∧
      (ledger history).window = readings history := by
  unfold ledger readings
  induction history using List.reverseRecOn with
  | nil => exact ⟨rfl, rfl⟩
  | append_singleton earlier event induction =>
      obtain ⟨sent, window⟩ := induction fun event member =>
        unsent event (by simp [member])
      have quiet := unsent event (by simp)
      rw [List.foldl_concat, List.foldl_concat, ← window]
      revert sent
      generalize earlier.foldl Ledger.observe Ledger.opened = before
      intro sent
      cases event with
      | cycleStart => simp [Ledger.observe, Window.observe, sent]
      | sendMeasurements messages => simp [Event.isSend, Event.uploadCall?] at quiet
      | _ => exact ⟨sent, rfl⟩

theorem validDHT11_of_append {history later : List Event}
    (invalid : (readings (history ++ later)).validDHT11 = []) :
    (readings history).validDHT11 = [] := by
  revert invalid
  unfold readings
  rw [List.foldl_append]
  generalize history.foldl Window.observe Window.empty = window
  induction later generalizing window with
  | nil => exact id
  | cons event rest induction =>
      intro invalid
      have shorter := induction _ invalid
      revert shorter
      cases event <;> simp [Window.observe, Window.addBMP280,
        Window.addDS18B20, Window.addDHT11, Window.validDHT11]
      exact fun shorter _ => shorter

theorem dht11MeasAvg_execute {point : Point} (other : point ≠ .averageUpdateDHT11)
    (readings : Readings) (data : Data) :
    (data.execute point readings).averages.dht11MeasAvg =
      data.averages.dht11MeasAvg := by
  cases point with
  | averageUpdateDHT11 => exact absurd rfl other
  | _ => simp only [Data.execute, averageUpdateBMP280, averageUpdateDS18B20,
      averageReset]

theorem Reopened.dht11MeasAvg_kept {period : UpdatePeriod} {station : Station}
    (reopened : Reopened period station) (actions : List Action)
    (unsent : ∀ event ∈ (Station.machine period).trace station actions,
      event.isSend = false)
    (invalid : (readings ((Station.machine period).trace station
      actions)).validDHT11 = []) :
    ((Station.machine period).exec station actions).data.averages.dht11MeasAvg =
      station.data.averages.dht11MeasAvg := by
  induction actions using List.reverseRecOn with
  | nil => rfl
  | append_singleton earlier action induction =>
      rw [Machine.trace_concat] at unsent invalid
      have earlierUnsent := fun event member =>
        unsent event (List.mem_append_left _ member)
      have earlierInvalid := validDHT11_of_append invalid
      rw [Machine.exec_concat, ← induction earlierUnsent earlierInvalid]
      cases action with
      | timerCallback => rfl
      | mainStep readings =>
          by_cases updating : ((Station.machine period).exec station
              earlier).control.point = .averageUpdateDHT11
          · have books := (books_open reopened.point
              reopened.accounts).exec period earlier
            obtain ⟨sent, window⟩ := ledger_unsent earlierUnsent
            have agrees := (books.fed.window sent).2
            rw [window, Station.pending, updating] at agrees
            rw [agrees] at earlierInvalid
            have erroneous : ¬((Station.machine period).exec station
                earlier).data.dht11Meas.Valid := by
              intro valid
              simp [Window.validDHT11, Window.addDHT11, valid]
                at earlierInvalid
            change (Data.execute _ readings _).averages.dht11MeasAvg = _
            rw [updating]
            simp only [Data.execute, averageUpdateDHT11_of_invalid erroneous]
          · exact dht11MeasAvg_execute updating readings _

/-- At the next upload the averages account for all that was read since. -/
theorem Reopened.window_at_send {period : UpdatePeriod} {station : Station}
    (reopened : Reopened period station) (actions : List Action)
    (unsent : ∀ event ∈ (Station.machine period).trace station actions,
      event.isSend = false)
    (sending : ((Station.machine period).exec station actions).control.point =
      .sendMeasurements) :
    let window := readings ((Station.machine period).trace station actions)
    ((Station.machine period).exec station
        actions).data.averages.Accounts window ∧
      window.bmp280 ≠ [] ∧ window.ds18b20 ≠ [] := by
  intro window
  have books := (books_open reopened.point reopened.accounts).exec period
    actions
  obtain ⟨sent, current⟩ := ledger_unsent unsent
  have fed : window = accounted ((Station.machine period).trace station
      actions) := by
    have fed := (books.fed.window sent).2
    rw [current, Station.pending, sending] at fed
    exact fed
  have accounts := books.accounts
  rw [← fed] at accounts
  obtain ⟨consistent, pace⟩ := reopened.pace.exec reopened.consistent actions
  have state := consistent.espState .sendData (by rw [sending]; rfl)
  have served := pace.served (by rw [sending]; decide)
  have outdoor := pace.le_ds18b20
  rw [← fed] at served outdoor
  simp only [state, sending, Control.readouts, Control.unsettled,
    Point.measured, reduceCtorEq, or_true, or_false, if_true, if_false]
    at served outdoor
  refine ⟨accounts, ?_, ?_⟩
  · intro empty
    rw [empty] at served
    simp at served
  · intro empty
    rw [empty] at outdoor
    simp only [List.length_nil] at outdoor
    split at outdoor <;> omega

/-- What two runs with the same control state publish at their next upload. -/
theorem published_at_send {period : UpdatePeriod} {left right : Station}
    (leftOpen : Reopened period left) (rightOpen : Reopened period right)
    (control : left.control = right.control) (actions : List Action)
    (unsent : ((Station.machine period).trace left actions).any Event.isSend =
      false)
    (sending : ((Station.machine period).exec left actions).control.point =
      .sendMeasurements) :
    let ofLeft := ((Station.machine period).exec left actions).data.averages
    let ofRight := ((Station.machine period).exec right actions).data.averages
    let valid :=
      (readings ((Station.machine period).trace left actions)).validDHT11
    ofLeft.bmp280MeasAvg = ofRight.bmp280MeasAvg ∧
      ofLeft.ds18b20MeasAvg = ofRight.ds18b20MeasAvg ∧
      (valid ≠ [] → ofLeft.dht11MeasAvg = ofRight.dht11MeasAvg) ∧
      (valid = [] →
        ofLeft.dht11MeasAvg = left.data.averages.dht11MeasAvg ∧
          ofRight.dht11MeasAvg = right.data.averages.dht11MeasAvg) := by
  intro ofLeft ofRight valid
  obtain ⟨reached, folded, sent⟩ := lockstep control actions Ledger.opened
  rw [unsent] at sent
  have leftUnsent : ∀ event ∈ (Station.machine period).trace left actions,
      event.isSend = false := by
    simpa using unsent
  have rightUnsent : ∀ event ∈ (Station.machine period).trace right actions,
      event.isSend = false := by
    simpa using sent.symm
  have same : readings ((Station.machine period).trace right actions) =
      readings ((Station.machine period).trace left actions) := by
    rw [← (ledger_unsent leftUnsent).2, ← (ledger_unsent rightUnsent).2]
    exact congrArg Ledger.window folded.symm
  obtain ⟨leftAccounts, measured, outdoors⟩ :=
    leftOpen.window_at_send actions leftUnsent sending
  obtain ⟨rightAccounts, -⟩ :=
    rightOpen.window_at_send actions rightUnsent (by rw [← reached, sending])
  rw [same] at rightAccounts
  obtain ⟨bmp280, ds18b20, dht11⟩ := leftAccounts.published_eq rightAccounts
  refine ⟨bmp280 measured, ds18b20 outdoors, dht11, ?_⟩
  intro invalid
  refine ⟨leftOpen.dht11MeasAvg_kept actions leftUnsent invalid,
    rightOpen.dht11MeasAvg_kept actions rightUnsent ?_⟩
  rw [same]
  exact invalid

end QuarkMeteoStation
