import QuarkMeteoStation.ESP.Report
import QuarkMeteoStation.Main.Reopened

namespace QuarkMeteoStation

open Library

/-! What two runs from different pasts upload over the same window. -/

def Station.uploadMessages (station : Station) : List (List UInt8) :=
  (ESP.sendMeasurements station.data.averages.published
    station.data.buffers).2

theorem Station.uploadMessages_eq_iff {left right : Station}
    (bmp280 : left.data.averages.bmp280MeasAvg =
      right.data.averages.bmp280MeasAvg)
    (ds18b20 : left.data.averages.ds18b20MeasAvg =
      right.data.averages.ds18b20MeasAvg) :
    left.uploadMessages = right.uploadMessages ↔
      left.data.averages.dht11MeasAvg.humidity =
        right.data.averages.dht11MeasAvg.humidity :=
  @ESP.sendMeasurements_messages_eq_iff left.data.averages.published
    right.data.averages.published bmp280 ds18b20 _ _

/-- Over a window with nothing but error readings, two uploads agree exactly
when the two pasts left the same humidity behind. -/
theorem stale_upload_iff {period : UpdatePeriod} {left right : Station}
    (leftOpen : Reopened period left) (rightOpen : Reopened period right)
    (control : left.control = right.control) (actions : List Action)
    (unsent : ((Station.machine period).trace left actions).any Event.isSend =
      false)
    (sending : ((Station.machine period).exec left actions).control.point =
      .sendMeasurements)
    (invalid : (readings ((Station.machine period).trace left
      actions)).validDHT11 = []) :
    ((Station.machine period).exec left actions).uploadMessages =
        ((Station.machine period).exec right actions).uploadMessages ↔
      left.data.averages.dht11MeasAvg.humidity =
        right.data.averages.dht11MeasAvg.humidity := by
  obtain ⟨bmp280, ds18b20, -, kept⟩ := published_at_send leftOpen rightOpen
    control actions unsent sending
  obtain ⟨ofLeft, ofRight⟩ := kept invalid
  rw [← ofLeft, ← ofRight]
  exact Station.uploadMessages_eq_iff bmp280 ds18b20

/-- Four steps from the call the cycle is about to end. -/
theorem rest_of_send (period : UpdatePeriod) {before : Station}
    (sending : before.control.point = .sendMeasurements)
    (readings : Readings) :
    let rest := List.replicate 4 (.mainStep readings)
    let after := (Station.machine period).exec before rest
    after.control.point = .setUpToDate ∧
      after.data.averages.dht11MeasAvg =
        before.data.averages.dht11MeasAvg ∧
      ∃ messages bmp280Meas ds18b20Meas dht11Meas,
        (Station.machine period).trace before rest =
          [.sendMeasurements messages, .averageReset,
            .guiUpdate bmp280Meas ds18b20Meas dht11Meas] := by
  refine ⟨?_, ?_, ?_⟩
  · simp only [List.replicate, Machine.exec_cons, Machine.exec_nil,
      Station.machine_step, Station.step, Control.next, sending]
  · simp only [List.replicate, Machine.exec_cons, Machine.exec_nil,
      Station.machine_step, Station.step, Control.next, sending, Data.execute,
      averageReset]
  · simp only [List.replicate, Machine.trace_cons, Machine.trace_nil,
      Station.machine_step, Station.machine_output, Station.event,
      Station.call, Station.step, Control.next, sending, Option.toList_some,
      Option.toList_none, List.nil_append, List.cons_append, List.append_nil]
    exact ⟨_, _, _, _, rfl⟩

theorem justUploaded_of_send (period : UpdatePeriod) {initial : Station}
    (started : initial.Started) {actions : List Action}
    (sending : ((Station.machine period).exec initial actions).control.point =
      .sendMeasurements) (readings : Readings) :
    let before := (Station.machine period).exec initial actions
    let after := (Station.machine period).exec initial
      (actions ++ List.replicate 5 (.mainStep readings))
    JustUploaded period after ∧ after.control.Ended ∧
      after.data.averages.dht11MeasAvg = before.data.averages.dht11MeasAvg := by
  intro before after
  obtain ⟨reached, kept, messages, bmp280Meas, ds18b20Meas, dht11Meas,
    traced⟩ := rest_of_send period sending readings
  rw [← Machine.exec_append] at reached kept
  have last : after = ((Station.machine period).exec initial
      (actions ++ List.replicate 4 (.mainStep readings))).step period
        (.mainStep readings) := by
    simp only [after]
    rw [List.replicate_succ', ← List.append_assoc, Machine.exec_concat]
    rfl
  refine ⟨⟨initial, actions ++ List.replicate 4 (.mainStep readings),
    (Station.machine period).trace initial actions, messages,
    [.averageReset, .guiUpdate bmp280Meas ds18b20Meas dht11Meas], readings,
    started, ?_, by simp, reached, last⟩, ?_, ?_⟩
  · rw [Machine.trace_append]
    exact congrArg _ traced
  · rw [last, Control.Ended, Station.control_step, Control.step, Control.next,
      reached]
    exact ⟨rfl, rfl⟩
  · rw [last, ← kept]
    change (Data.execute _ readings _).averages.dht11MeasAvg = _
    rw [reached]
    rfl

/-- One upload period of cycles with the same readings, and the cycle that
sends. -/
def periodOf (period : UpdatePeriod) (readings : Readings) : List Action :=
  pacedRun (List.replicate period.serverUpdatePeriod readings) ++
    cycleActions readings

theorem UpdatePeriod.positive (period : UpdatePeriod) :
    0 < period.serverUpdatePeriod :=
  Nat.lt_of_le_of_lt (Nat.zero_le _) period.connectionLt

theorem offers_steady {readings : Readings} {cycles steps : Nat}
    {action : Action}
    (member : action ∈ pacedRun (List.replicate cycles readings) ++
      List.replicate steps (.mainStep readings)) :
    action.Offers (· = readings) := by
  rcases List.mem_append.mp member with paced | last
  · rcases mem_pacedRun paced with rfl | ⟨taken, same, rfl⟩
    · exact trivial
    · exact List.eq_of_mem_replicate same
  · rw [List.eq_of_mem_replicate last]
    exact rfl

theorem periodOf_uploaded (period : UpdatePeriod) {initial : Station}
    (started : initial.Started) (readings : Readings) :
    ∃ actions,
      (∀ action ∈ actions, action.Offers (· = readings)) ∧
      ((Station.machine period).exec initial actions).control.point =
        .sendMeasurements ∧
      JustUploaded period
        ((Station.machine period).exec initial (periodOf period readings)) ∧
      ((Station.machine period).exec initial
          (periodOf period readings)).data.averages.dht11MeasAvg =
        ((Station.machine period).exec initial
          actions).data.averages.dht11MeasAvg := by
  have positive := period.positive
  let rounds := List.replicate period.serverUpdatePeriod readings
  obtain ⟨steps, few, sending⟩ := exists_send period started
    (List.ne_nil_of_length_pos (l := rounds)
      (by rw [List.length_replicate]; exact positive))
    (by rw [List.length_replicate]) readings
  obtain ⟨uploaded, ended, kept⟩ := justUploaded_of_send period started sending
    readings
  have whole : (Station.machine period).exec initial (periodOf period readings) =
      (Station.machine period).exec initial
        ((pacedRun rounds ++ List.replicate steps (.mainStep readings)) ++
          List.replicate 5 (.mainStep readings)) := by
    have split : cycleActions readings =
        List.replicate steps (.mainStep readings) ++
          (List.replicate 5 (.mainStep readings) ++
            List.replicate (11 - steps) (.mainStep readings)) := by
      rw [cycleActions, ← List.replicate_add, ← List.replicate_add]
      congr 1
      omega
    rw [periodOf, split, ← List.append_assoc, ← List.append_assoc,
      Machine.exec_append _ _ _ (List.replicate (11 - steps) _),
      exec_replicate_of_ended period ended]
  refine ⟨_, ?_, sending, by rw [whole]; exact uploaded,
    by rw [whole]; exact kept⟩
  exact fun action member => offers_steady member

theorem exists_first_send (period : UpdatePeriod) {station : Station}
    {actions : List Action}
    (sending : ((Station.machine period).exec station actions).control.point =
      .sendMeasurements) :
    ∃ first, (∀ action ∈ first, action ∈ actions) ∧
      ((Station.machine period).trace station first).any Event.isSend = false ∧
      ((Station.machine period).exec station first).control.point =
        .sendMeasurements := by
  induction actions generalizing station with
  | nil => exact ⟨[], by simp, rfl, sending⟩
  | cons action rest induction =>
      by_cases here : station.control.point = .sendMeasurements
      · exact ⟨[], by simp, rfl, here⟩
      · obtain ⟨first, within, unsent, reached⟩ := induction sending
        refine ⟨action :: first, ?_, ?_, reached⟩
        · exact List.cons_subset_cons action within
        · have quiet : (station.event action).toList.any Event.isSend =
              false := by
            cases action with
            | timerCallback => rfl
            | mainStep readings =>
                rw [Station.event, Station.any_isSend_call]
                exact decide_eq_false here
          rw [Machine.trace_cons, List.any_append, unsent, Bool.or_false]
          exact quiet

theorem exists_next_send (period : UpdatePeriod) {initial : Station}
    (started : initial.Started) (readings later : Readings) :
    let station := (Station.machine period).exec initial
      (periodOf period readings)
    ∃ actions, (∀ action ∈ actions, action.Offers (· = later)) ∧
      ((Station.machine period).trace station actions).any Event.isSend =
        false ∧
      ((Station.machine period).exec station actions).control.point =
        .sendMeasurements := by
  intro station
  have positive := period.positive
  let rounds := List.replicate period.serverUpdatePeriod readings ++
    readings :: List.replicate (period.serverUpdatePeriod - 1) later
  have length : rounds.length = 2 * period.serverUpdatePeriod := by
    simp only [rounds, List.length_append, List.length_cons,
      List.length_replicate]
    omega
  obtain ⟨steps, -, sending⟩ := exists_send period started
    (List.ne_nil_of_length_pos (l := rounds) (by omega))
    (length ▸ Nat.dvd_mul_left _ 2) later
  let onward := .timerCallback ::
    (pacedRun (List.replicate (period.serverUpdatePeriod - 1) later) ++
      List.replicate steps (.mainStep later))
  have split : pacedRun rounds ++ List.replicate steps (.mainStep later) =
      periodOf period readings ++ onward := by
    simp [rounds, onward, periodOf, pacedRun]
  rw [split, Machine.exec_append] at sending
  obtain ⟨first, within, unsent, reached⟩ := exists_first_send period sending
  refine ⟨first, ?_, unsent, reached⟩
  intro action member
  rcases List.mem_cons.mp (within action member) with rfl | member
  · exact trivial
  · exact offers_steady member

theorem control_exec_periodOf (period : UpdatePeriod) (initial : Station)
    (readings others : Readings) :
    ((Station.machine period).exec initial
        (periodOf period readings)).control =
      ((Station.machine period).exec initial
        (periodOf period others)).control := by
  apply control_exec_congr period rfl
  simp [periodOf, pacedRun, cycleActions, List.flatMap_replicate]

theorem humidity_at_send {initial : Station} (started : initial.Started)
    {actions : List Action} {readings : Readings}
    (valid : readings.dht11.Valid)
    (offers : ∀ action ∈ actions, action.Offers (· = readings))
    (sending : ((Station.machine .configured).exec initial
      actions).control.point = .sendMeasurements) :
    ((Station.machine .configured).exec initial
        actions).data.averages.dht11MeasAvg.humidity =
      readings.dht11.humidity := by
  let history := (Station.machine .configured).trace initial actions
  have consistent := Station.consistent_exec .configured started actions
  have pace := pace_exec .configured started actions
  have accounts := (books_exec .configured started actions).accounts
  have window : currentWindow history = accounted history := by
    rw [currentWindow_eq .configured started actions (by rw [sending]; rfl)
      (by rw [sending]; decide), Station.pending, sending]
  have periodEq : UpdatePeriod.configured.serverUpdatePeriod = 3600 := rfl
  obtain ⟨bmpLength, dhtLength, -⟩ := pace.lengths consistent
  have served := pace.served (by rw [sending]; decide)
  have together := pace.dht11
  rw [sending] at served together
  rw [← window] at accounts served together bmpLength dhtLength
  have constant : ∀ meas ∈ (currentWindow history).dht11,
      meas = readings.dht11 := by
    intro meas member
    obtain ⟨taken, rfl, same⟩ :=
      (offered_exec .configured _ initial actions offers).1.dht11 meas member
    exact same.symm
  have allValid : (currentWindow history).validDHT11 =
      (currentWindow history).dht11 := by
    refine List.filter_eq_self.mpr fun meas member => ?_
    rw [constant meas member]
    exact decide_eq_true valid
  have nonempty : (currentWindow history).dht11 ≠ [] := by
    intro empty
    simp [empty, Point.measured] at served together
    omega
  have exact := accounts.dht11.exact (by rw [allValid]; omega)
  rw [← UInt8.toNat_inj, accounts.dht11Published (by rwa [allValid]),
    exact.result.1, allValid]
  refine floorMean_of_constant (by simpa using nonempty) ?_
  intro sample member
  obtain ⟨meas, measIn, rfl⟩ := List.mem_map.mp member
  rw [constant meas measIn]

def Station.steady (readings : Readings) : Station :=
  (Station.machine .configured).exec Station.zeroed
    (periodOf .configured readings)

theorem Station.steady_uploaded {readings : Readings}
    (valid : readings.dht11.Valid) :
    JustUploaded .configured (steady readings) ∧
      (steady readings).data.averages.dht11MeasAvg.humidity =
        readings.dht11.humidity := by
  obtain ⟨actions, offers, sending, uploaded, kept⟩ :=
    periodOf_uploaded .configured zeroed_started readings
  refine ⟨uploaded, ?_⟩
  rw [steady, kept]
  exact humidity_at_send zeroed_started valid offers sending

theorem Station.steady_control (readings others : Readings) :
    (steady readings).control = (steady others).control :=
  control_exec_periodOf .configured zeroed readings others

/-- An upload depends on its own window alone exactly when the window has a
valid humidity reading, or the pasts agree on the humidity they published. -/
theorem upload_of_window_iff (period : UpdatePeriod) (left right : Station)
    (leftUploaded : JustUploaded period left)
    (rightUploaded : JustUploaded period right)
    (control : left.control = right.control) (actions : List Action)
    (unsent : ((Station.machine period).trace left actions).any Event.isSend =
      false)
    (sending : ((Station.machine period).exec left actions).control.point =
      .sendMeasurements) :
    ((Station.machine period).exec left actions).uploadMessages =
        ((Station.machine period).exec right actions).uploadMessages ↔
      (readings ((Station.machine period).trace left
          actions)).validDHT11 ≠ [] ∨
        left.data.averages.dht11MeasAvg.humidity =
          right.data.averages.dht11MeasAvg.humidity := by
  have leftOpen := leftUploaded.reopened
  have rightOpen := rightUploaded.reopened
  by_cases invalid : (readings ((Station.machine period).trace left
      actions)).validDHT11 = []
  · rw [stale_upload_iff leftOpen rightOpen control actions unsent sending
      invalid]
    simp [invalid]
  · obtain ⟨bmp280, ds18b20, fresh, -⟩ := published_at_send leftOpen rightOpen
      control actions unsent sending
    have same := (Station.uploadMessages_eq_iff bmp280 ds18b20).mpr
      (congrArg DHT11Meas.humidity (fresh invalid))
    exact ⟨fun _ => Or.inl invalid, fun _ => same⟩

theorem upload_of_window_iff_same_humidity :
    let ofPressure (pressure : UInt32) : Readings :=
      ⟨⟨pressure, 2150⟩, ⟨.positive, 9, 50⟩, ⟨40, 21⟩⟩
    ∃ actions,
      ((Station.machine .configured).exec (Station.steady (ofPressure 99000))
          actions).control.point = .sendMeasurements ∧
        ((Station.machine .configured).exec (Station.steady (ofPressure 99000))
            actions).uploadMessages =
          ((Station.machine .configured).exec
            (Station.steady (ofPressure 101000)) actions).uploadMessages := by
  intro ofPressure
  obtain ⟨high, highHumidity⟩ :=
    @Station.steady_uploaded (ofPressure 101000) (by decide)
  obtain ⟨low, lowHumidity⟩ :=
    @Station.steady_uploaded (ofPressure 99000) (by decide)
  have control :=
    Station.steady_control (ofPressure 99000) (ofPressure 101000)
  obtain ⟨actions, -, unsent, sending⟩ := exists_next_send .configured
    Station.zeroed_started (ofPressure 99000)
    ⟨⟨100000, 2150⟩, ⟨.positive, 9, 50⟩, DHT11Error.noSensorError.measurement⟩
  refine ⟨actions, sending, ?_⟩
  refine (upload_of_window_iff .configured _ _ low high control actions unsent
    sending).mpr (Or.inr ?_)
  rw [lowHumidity, highHumidity]

theorem upload_of_window_stale :
    ¬∀ left right : Station, JustUploaded .configured left →
      JustUploaded .configured right → left.control = right.control →
      ∀ actions : List Action,
      ((Station.machine .configured).trace left actions).any Event.isSend =
        false →
      ((Station.machine .configured).exec left actions).control.point =
        .sendMeasurements →
      ((Station.machine .configured).exec left actions).uploadMessages =
        ((Station.machine .configured).exec right actions).uploadMessages := by
  intro fresh
  let ofHumidity (humidity : UInt8) : Readings :=
    ⟨⟨100000, 2150⟩, ⟨.positive, 9, 50⟩, ⟨humidity, 21⟩⟩
  let silent : Readings :=
    ⟨⟨100000, 2150⟩, ⟨.positive, 9, 50⟩, DHT11Error.noSensorError.measurement⟩
  obtain ⟨dry, dryHumidity⟩ :=
    @Station.steady_uploaded (ofHumidity 40) (by decide)
  obtain ⟨damp, dampHumidity⟩ :=
    @Station.steady_uploaded (ofHumidity 60) (by decide)
  have control := Station.steady_control (ofHumidity 40) (ofHumidity 60)
  obtain ⟨actions, offers, unsent, sending⟩ := exists_next_send .configured
    Station.zeroed_started (ofHumidity 40) silent
  have invalid : (readings ((Station.machine .configured).trace
      (Station.steady (ofHumidity 40)) actions)).validDHT11 = [] := by
    refine List.filter_eq_nil_iff.mpr fun meas member => ?_
    obtain ⟨taken, rfl, same⟩ :=
      (offered_exec .configured _ _ actions offers).2.dht11 meas member
    rw [← same]
    decide
  have equal := fresh _ _ dry damp control actions unsent sending
  rw [stale_upload_iff dry.reopened damp.reopened control actions unsent
    sending invalid, dryHumidity, dampHumidity] at equal
  exact absurd equal (by decide)

end QuarkMeteoStation
