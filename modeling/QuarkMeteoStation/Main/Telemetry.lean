import QuarkMeteoStation.Average.Outdoor
import QuarkMeteoStation.ESP.Bounds
import QuarkMeteoStation.ESP.Modem
import QuarkMeteoStation.Main.Freshness
import QuarkMeteoStation.Main.Protocol
import QuarkMeteoStation.Main.Uploads
import QuarkMeteoStation.UART

namespace QuarkMeteoStation

open Library

/-! From the sensors to the server: the bytes a whole run puts on the UART, the
blocks that reach the server, and what its reports say about the readings. -/

universe u

namespace Event

/-- The buffers a call hands to `qm_uart_write_buffer`. -/
def uartCalls : Event → List (List UInt8)
  | .connectToServer message => [message]
  | .sendMeasurements messages => messages
  | _ => []

/-- The request a call is meant to bring to the server. -/
def request? : Event → Option (List UInt8)
  | .sendMeasurements messages => some (messages.getD 1 [])
  | _ => none

end Event

def uartCalls (history : List Event) : List (List UInt8) :=
  history.flatMap Event.uartCalls

def uartStream (history : List Event) : List UInt8 :=
  (uartCalls history).flatten

def requests (history : List Event) : List (List UInt8) :=
  history.filterMap Event.request?

@[simp] theorem uartStream_append (history later : List Event) :
    uartStream (history ++ later) = uartStream history ++ uartStream later := by
  simp [uartStream, uartCalls]

@[simp] theorem requests_append (history later : List Event) :
    requests (history ++ later) = requests history ++ requests later := by
  simp [requests]

/-- What the line carries once every call has returned. -/
theorem lineOf_uartCalls {history : List Event}
    {calls : List (List UInt8 × List UART.Move)}
    (written : calls.map Prod.fst = uartCalls history)
    (returned : ∀ call ∈ calls, UART.Returned
      (UART.machine.exec (UART.State.writeBuffer call.1) call.2)) :
    UART.lineOf calls = uartStream history := by
  rw [UART.lineOf_returned returned, written]
  rfl

namespace Station

/-- No number that is sent is longer than `utoa_buffer`. -/
def NumbersFit (station : Station) : Action → Prop
  | .timerCallback => True
  | .mainStep _ => station.control.point = .sendMeasurements →
      ESP.jsonDigits station.data.averages.published ≤ ESP.maxUtoaSize

/-- The calls that write on the UART, and the text of each. -/
theorem uart_event (station : Station) (action : Action) :
    (∃ readings, action = .mainStep readings ∧
        station.control.point = .connectToServer ∧
        uartStream (station.event action).toList = ESP.connectText ∧
        requests (station.event action).toList = []) ∨
      (∃ readings, action = .mainStep readings ∧
        station.control.point = .sendMeasurements ∧
        let request := ESP.postText (ESP.jsonText
          station.data.averages.published)
        uartStream (station.event action).toList =
            ESP.sendATText request.length ++ request ∧
          requests (station.event action).toList = [request]) ∨
      ((∀ readings, action = .mainStep readings →
          station.control.point ≠ .connectToServer ∧
            station.control.point ≠ .sendMeasurements) ∧
        uartStream (station.event action).toList = [] ∧
        requests (station.event action).toList = []) := by
  cases action with
  | timerCallback => exact .inr (.inr ⟨by simp, rfl, rfl⟩)
  | mainStep readings =>
      simp only [event, call]
      cases point : station.control.point with
      | connectToServer =>
          refine .inl ⟨readings, rfl, rfl, ?_, rfl⟩
          simp [uartStream, uartCalls, Event.uartCalls,
            (ESP.connectToServer_spec _).2]
      | sendMeasurements =>
          refine .inr (.inl ⟨readings, rfl, rfl, ?_, ?_⟩)
          · simp [uartStream, uartCalls, Event.uartCalls,
              ESP.sendMeasurements_messages]
          · simp [requests, Event.request?, ESP.sendMeasurements_messages]
      | testUpdateState =>
          refine .inr (.inr ⟨by simp, ?_, ?_⟩) <;> simp only <;> split <;> rfl
      | _ => exact .inr (.inr ⟨by simp, rfl, rfl⟩)

end Station

section Modem

variable {State : Type u} {modem : ESP.Modem State}

/-- The module has sent every request so far and no more, waits for the next
command, and has a connection whenever the loop believes in one. -/
structure Attended (modem : ESP.Modem State) (first : State)
    (history : List Event) (station : Station) : Prop where
  waiting : ∃ connected,
    modem.Waiting connected (modem.machine.exec first (uartStream history)) ∧
      (station.control.connected = true → connected = true)
  sent : modem.machine.trace first (uartStream history) = requests history
  inBounds : station.data.buffers.InBounds

/-- What a waiting module makes of the bytes of one more step. -/
theorem handed_step (documented : modem.Documented) {state : State}
    {connected : Bool} (waiting : modem.Waiting connected state)
    {station : Station} {period : UpdatePeriod}
    (consistent : station.control.Consistent period)
    (opened : station.control.connected = true → connected = true)
    (action : Action) :
    let stream := uartStream (station.event action).toList
    (∃ after, modem.Waiting after (modem.machine.exec state stream) ∧
        ((station.step period action).control.connected = true →
          after = true)) ∧
      modem.machine.trace state stream =
        requests (station.event action).toList := by
  intro stream
  have next := Control.connected_next consistent
  rcases station.uart_event action with
    ⟨readings, rfl, point, written, request⟩ |
    ⟨readings, rfl, point, written, request⟩ | ⟨elsewhere, written, request⟩
  · obtain ⟨connects, quiet⟩ := documented.connects connected state waiting
    simp only [stream, written, request]
    exact ⟨⟨true, connects, fun _ => rfl⟩, quiet⟩
  · have short := ESP.length_postText_jsonText_le
      station.data.averages.published
    have nonempty : 0 < (ESP.postText (ESP.jsonText
        station.data.averages.published)).length := by
      rw [ESP.length_postText]
      omega
    rw [opened (Control.connected_of_sendMeasurements consistent point)]
      at waiting
    obtain ⟨⟨after, waits⟩, delivered⟩ := documented.request waiting nonempty
      (Nat.le_trans short (by decide))
    simp only [stream, written, request]
    refine ⟨⟨after, waits, fun believed => ?_⟩, delivered⟩
    simp [Station.step, next, point] at believed
  · simp only [stream, written, request]
    refine ⟨⟨connected, waiting, fun believed => opened ?_⟩, rfl⟩
    rw [← believed]
    cases action with
    | timerCallback =>
        exact (Control.connected_timerCallback consistent).symm
    | mainStep readings =>
        obtain ⟨connecting, sending⟩ := elsewhere readings rfl
        simp only [Station.step, next]

theorem Station.inBounds_step {station : Station}
    (inBounds : station.data.buffers.InBounds) {action : Action}
    (fits : station.NumbersFit action) (period : UpdatePeriod) :
    (station.step period action).data.buffers.InBounds := by
  cases action with
  | timerCallback => exact inBounds
  | mainStep readings =>
      simp only [Station.step, Data.execute]
      cases point : station.control.point with
      | connectToServer => exact ESP.connectToServer_inBounds inBounds
      | sendMeasurements =>
          exact ESP.sendMeasurements_inBounds (fits point) inBounds
      | _ => exact inBounds

theorem Attended.step (documented : modem.Documented) {first : State}
    {history : List Event} {station : Station} {period : UpdatePeriod}
    (attended : Attended modem first history station)
    (consistent : station.control.Consistent period) (action : Action)
    (fits : station.NumbersFit action) :
    Attended modem first (history ++ (station.event action).toList)
      (station.step period action) := by
  obtain ⟨⟨connected, waiting, opened⟩, sent, inBounds⟩ := attended
  obtain ⟨⟨after, waits, believes⟩, delivered⟩ :=
    handed_step documented waiting consistent opened action
  refine ⟨⟨after, ?_, believes⟩, ?_, Station.inBounds_step inBounds fits period⟩
  · rw [uartStream_append, Machine.exec_append]
    exact waits
  · rw [uartStream_append, requests_append, Machine.trace_append, sent,
      delivered]

theorem attended_exec (documented : modem.Documented) {first : State}
    {connected : Bool} (waiting : modem.Waiting connected first)
    {period : UpdatePeriod} {initial : Station} (started : initial.Started)
    {actions : List Action}
    (fits : (Station.machine period).Along Station.NumbersFit initial
      actions) :
    Attended modem first ((Station.machine period).trace initial actions)
      ((Station.machine period).exec initial actions) := by
  induction actions using List.reverseRecOn with
  | nil =>
      refine ⟨⟨connected, waiting, fun believed => ?_⟩, rfl, ?_⟩
      · rw [Machine.exec_nil, started.control] at believed
        contradiction
      · rw [Machine.exec_nil, started.buffers]
        exact ESP.initial_inBounds
  | append_singleton earlier action induction =>
      obtain ⟨before, last⟩ := Machine.along_concat.mp fits
      rw [Machine.trace_concat, Machine.exec_concat]
      exact (induction before).step documented
        (Station.consistent_exec period started earlier) action last

end Modem

/-- The readings of every upload so far: those taken since the one before. -/
def uploadWindows (history : List Event) : List Window :=
  (closedStretches Event.isSend history).map readings

section Window

variable {period : UpdatePeriod} {initial : Station}

/-- The ledger's window is what was read since the last upload. -/
structure Recent (history : List Event) : Prop where
  unsent : (ledger history).sent = false →
    (ledger history).window = readings (sinceLast Event.isSend history)
  sent : (ledger history).sent = true →
    readings (sinceLast Event.isSend history) = Window.empty

theorem Recent.concat {history : List Event} (recent : Recent history)
    {event : Event}
    (quiet : (ledger history).sent = true → event.isSend = false →
      ∀ window : Window, window.observe event = window) :
    Recent (history ++ [event]) := by
  obtain ⟨unsent, sent⟩ := recent
  have opened : ledger (history ++ [event]) =
      (ledger history).observe event := by
    simp [ledger_append]
  have read : event.isSend = false →
      readings (sinceLast Event.isSend (history ++ [event])) =
        (readings (sinceLast Event.isSend history)).observe event := by
    intro other
    simp [other, readings_append]
  cases event with
  | sendMeasurements texts =>
      refine ⟨fun known => ?_, fun _ => ?_⟩
      · rw [opened] at known
        contradiction
      · simp [Event.isSend, Event.uploadCall?, readings]
  | cycleStart =>
      have same := read rfl
      simp only [Window.observe] at same
      refine ⟨?_, ?_⟩ <;> rw [opened, same, Ledger.observe] <;>
        cases known : (ledger history).sent <;> simp_all
  | _ =>
      have same := read rfl
      refine ⟨fun known => ?_, fun known => ?_⟩ <;> rw [opened] at known
      · rw [opened, same, ← unsent known]
        rfl
      · rw [same, quiet known rfl, sent known]

/-- Once its cycle has sent, a cycle reads nothing more. -/
theorem observe_call_of_sent {station : Station}
    (past : station.control.point = .averageReset ∨
      station.control.point.afterUpload = true) (taken : Readings)
    (window : Window) :
    ∀ event ∈ station.call taken, window.observe event = window := by
  intro event called
  unfold Station.call at called
  cases point : station.control.point <;>
    simp only [point, Point.afterUpload, reduceCtorEq, false_or,
      Bool.false_eq_true, or_self] at past <;>
    simp only [point] at called <;>
    (try split at called) <;> cases called <;> rfl

theorem recent_exec (started : initial.Started) (actions : List Action) :
    Recent ((Station.machine period).trace initial actions) := by
  induction actions using List.reverseRecOn with
  | nil =>
      exact ⟨fun _ => rfl, fun sent => by cases sent⟩
  | append_singleton earlier action induction =>
      rw [Machine.trace_concat]
      cases emitted : (Station.machine period).output
          ((Station.machine period).exec initial earlier) action with
      | none => simpa using induction
      | some event =>
          refine induction.concat fun sent other window => ?_
          cases action with
          | timerCallback =>
              cases emitted
              rfl
          | mainStep taken =>
              apply observe_call_of_sent _ taken window event emitted
              rcases (books_exec period started earlier).fed.uploaded sent with
                ⟨reset, -⟩ | ⟨after, -⟩
              · exact Or.inl reset
              · exact Or.inr after

end Window

/-- Readings the sensors can give. -/
structure Readings.InRange (readings : Readings) : Prop where
  bmp280 : readings.bmp280.Within 1000000 500000
  ds18b20 : readings.ds18b20.integer.toNat ≤ 127 ∧
    readings.ds18b20.fraction.toNat ≤ 99

def indoorMean (window : Window) : Int :=
  truncatedMean (window.bmp280.map fun meas => meas.temperature.toInt)

/-- What a report says about the readings it stands for. -/
structure Reported (window : Window) (report : ESP.Report) : Prop where
  pressure : report.P =
    floorMean (window.bmp280.map fun meas => meas.pressure.toNat)
  temperature : report.Ti = indoorMean window
  outdoor : report.To = meanHundredths window.ds18b20 ↔
    0 ≤ meanHundredths window.ds18b20
  humidity : window.validDHT11 ≠ [] → report.RH =
    floorMean (window.validDHT11.map fun meas => meas.humidity.toNat)

/-- The two bytes of a published mean recombine to it unless it is negative. -/
theorem hundredths_eq_iff {published : DS18B20Meas} {mean : Int}
    (coldest : -12799 ≤ mean) (warmest : mean ≤ 12799)
    (sign : published.sign = .negative ↔ mean < 0)
    (integer : (published.integer.toNat : Int) = mean.tdiv 100 % 256)
    (fraction : (published.fraction.toNat : Int) = mean.tmod 100 % 256) :
    published.hundredths = mean ↔ 0 ≤ mean := by
  unfold DS18B20Meas.hundredths
  rcases Int.lt_or_le mean 0 with negative | nonnegative
  · have quotient : mean.tdiv 100 = -(-mean / 100) := by
      rw [← Int.neg_neg mean, Int.neg_tdiv, Int.neg_neg,
        Int.tdiv_eq_ediv_of_nonneg (by omega)]
    have remainder : mean.tmod 100 = -(-mean % 100) := by
      rw [← Int.neg_neg mean, Int.neg_tmod, Int.neg_neg,
        Int.tmod_eq_emod_of_nonneg (by omega)]
    rw [sign.mpr negative]
    simp only
    omega
  · have positive : published.sign = .positive := by
      cases known : published.sign with
      | positive => rfl
      | negative => exact absurd (sign.mp known) (by omega)
    rw [Int.tdiv_eq_ediv_of_nonneg nonnegative] at integer
    rw [Int.tmod_eq_emod_of_nonneg nonnegative] at fraction
    rw [positive]
    simp only
    omega

theorem hundredths_of_inRange {meas : DS18B20Meas}
    (inRange : meas.integer.toNat ≤ 127 ∧ meas.fraction.toNat ≤ 99) :
    -12799 ≤ meas.hundredths ∧ meas.hundredths ≤ 12799 := by
  unfold DS18B20Meas.hundredths
  cases meas.sign <;> simp only <;> omega

section Upload

variable {averages : Averages} {window : Window}

theorem Window.From.within (inRange : window.From Readings.InRange) :
    ∀ meas ∈ window.bmp280, meas.Within 1000000 500000 := by
  intro meas member
  obtain ⟨readings, offered, rfl⟩ := inRange.bmp280 meas member
  exact offered.bmp280

theorem Window.From.outdoor (inRange : window.From Readings.InRange) :
    ∀ sample ∈ window.ds18b20.map DS18B20Meas.hundredths,
      -12799 ≤ sample ∧ sample ≤ 12799 := by
  intro sample member
  obtain ⟨meas, measIn, rfl⟩ := List.mem_map.mp member
  obtain ⟨readings, offered, rfl⟩ := inRange.ds18b20 meas measIn
  exact hundredths_of_inRange offered.ds18b20

/-- Averages that account for a window report it. -/
theorem Averages.Accounts.reported (accounts : averages.Accounts window)
    (bmp280 : window.bmp280 ≠ []) (ds18b20 : window.ds18b20 ≠ [])
    (few : window.bmp280.length ≤ 3601 ∧ window.ds18b20.length ≤ 3601 ∧
      window.dht11.length ≤ 3601)
    (inRange : window.From Readings.InRange) :
    Reported window (ESP.reportOf averages.published) := by
  have outdoor := inRange.outdoor
  obtain ⟨pressures, coldest, warmest⟩ := bmp280_sums_le inRange.within
  have report := accounts.report bmp280 (by omega) (by omega) (by omega)
    (by omega) ⟨by omega, by omega⟩
  obtain ⟨sign, integer, fraction⟩ :=
    (accounts.ds18b20.exact (by omega)).result ds18b20
  have means : -12799 ≤ meanHundredths window.ds18b20 ∧
      meanHundredths window.ds18b20 ≤ 12799 :=
    truncatedMean_bounds (by simpa using ds18b20)
      (fun sample member => (outdoor sample member).1)
      (fun sample member => (outdoor sample member).2)
  refine ⟨?_, ?_, ?_, ?_⟩
  · exact congrArg Int.ofNat report.pressure
  · exact report.temperature
  · rw [← accounts.ds18b20Published ds18b20] at sign integer fraction
    exact hundredths_eq_iff means.1 means.2 sign integer fraction
  · intro valid
    exact congrArg Int.ofNat (report.humidity valid)

/-- What is reported of a window that is not below zero fits `utoa_buffer`. -/
theorem Reported.fits {meas : ESP.Measurements}
    (reported : Reported window (ESP.reportOf meas))
    (nonempty : window.bmp280 ≠ []) (inRange : window.From Readings.InRange)
    (warm : 0 ≤ indoorMean window) :
    ESP.jsonDigits meas ≤ ESP.maxUtoaSize := by
  have within := inRange.within
  have temperature : meas.bmp280Meas.temperature.toInt = indoorMean window :=
    reported.temperature
  have pressure : (meas.bmp280Meas.pressure.toNat : Int) =
      floorMean (window.bmp280.map fun meas => meas.pressure.toNat) :=
    reported.pressure
  have highest : floorMean (window.bmp280.map fun meas => meas.pressure.toNat) ≤
      1000000 := by
    apply floorMean_le
    intro sample member
    obtain ⟨meas, measIn, rfl⟩ := List.mem_map.mp member
    exact (within meas measIn).1
  have bounds : ∀ sample ∈ window.bmp280.map fun meas : BMP280Meas =>
      meas.temperature.toInt, -500000 ≤ sample ∧ sample ≤ 500000 := by
    intro sample member
    obtain ⟨meas, measIn, rfl⟩ := List.mem_map.mp member
    have bounded := (within meas measIn).2
    omega
  have warmest : indoorMean window ≤ 500000 :=
    (truncatedMean_bounds (by simpa using nonempty)
      (fun sample member => (bounds sample member).1)
      (fun sample member => (bounds sample member).2)).2
  exact (ESP.jsonDigits_le_iff meas (by omega) (by omega)).mpr (by omega)

end Upload

section Served

variable {initial : Station}

theorem Event.isSend_of_requests {events : List Event}
    (silent : requests events = []) :
    ∀ event ∈ events, event.isSend = false := by
  intro event member
  have none := List.filterMap_eq_nil_iff.mp silent event member
  cases event <;> first | rfl | cases none

/-- A step closes a window and sends a request, or does neither. -/
theorem upload_concat (period : UpdatePeriod) (initial : Station)
    (earlier : List Action) (action : Action) :
    let history := (Station.machine period).trace initial earlier
    let station := (Station.machine period).exec initial earlier
    let later := (Station.machine period).trace initial (earlier ++ [action])
    ((∃ taken, action = .mainStep taken) ∧
        station.control.point = .sendMeasurements ∧
        uploadWindows later = uploadWindows history ++
          [readings (sinceLast Event.isSend history)] ∧
        requests later = requests history ++
          [ESP.postText (ESP.jsonText station.data.averages.published)]) ∨
      (station.NumbersFit action ∧
        uploadWindows later = uploadWindows history ∧
        requests later = requests history) := by
  intro history station later
  have continued : later = history ++ (station.event action).toList :=
    Machine.trace_concat _ _ _ _
  have quiet : requests (station.event action).toList = [] →
      uploadWindows later = uploadWindows history ∧
        requests later = requests history := by
    intro silent
    rw [continued, requests_append, silent, List.append_nil, uploadWindows,
      closedStretches_append_of_unmarked _ _ _
        (Event.isSend_of_requests silent)]
    exact ⟨rfl, rfl⟩
  rcases station.uart_event action with
    ⟨taken, rfl, point, -, request⟩ | ⟨taken, rfl, point, -, request⟩ |
    ⟨elsewhere, -, request⟩
  · refine .inr ⟨fun sending => ?_, quiet request⟩
    rw [point] at sending
    contradiction
  · refine .inl ⟨⟨taken, rfl⟩, point, ?_, ?_⟩
    · rw [continued, Station.event, Station.call, point]
      simp only [Option.toList_some, uploadWindows, closedStretches_concat]
      simp [Event.isSend, Event.uploadCall?]
    · rw [continued, requests_append, request]
  · refine .inr ⟨?_, quiet request⟩
    cases action with
    | timerCallback => trivial
    | mainStep taken =>
        exact fun sending => absurd sending (elsewhere taken rfl).2

theorem unsent_at_send {period : UpdatePeriod} (started : initial.Started)
    {actions : List Action}
    (sending : ((Station.machine period).exec initial
      actions).control.point = .sendMeasurements) :
    (ledger ((Station.machine period).trace initial actions)).sent =
      false := by
  have books := books_exec period started actions
  cases sent : (ledger ((Station.machine period).trace initial
      actions)).sent with
  | false => rfl
  | true =>
      rcases books.fed.uploaded sent with ⟨reset, -⟩ | ⟨after, -⟩
      · rw [sending] at reset
        contradiction
      · rw [sending] at after
        contradiction

/-- The windows hold nothing but what the sensors offered. -/
theorem offered_uploadWindows {period : UpdatePeriod}
    {offered : Readings → Prop} (started : initial.Started)
    {actions : List Action}
    (offers : ∀ action ∈ actions, action.Offers offered) :
    ∀ window ∈ uploadWindows ((Station.machine period).trace initial actions),
      window.From offered := by
  induction actions using List.reverseRecOn with
  | nil => simp [uploadWindows]
  | append_singleton earlier action induction =>
      have front : ∀ other ∈ earlier, other.Offers offered :=
        fun other member => offers other (List.mem_append_left _ member)
      rcases upload_concat period initial earlier action with
        ⟨-, sending, closed, -⟩ | ⟨-, closed, -⟩
      · have current := (@recent_exec period initial started
          earlier).unsent (unsent_at_send started sending)
        have last := (offered_exec period offered initial earlier front).1
        rw [current] at last
        rw [closed]
        intro window member
        rcases List.mem_append.mp member with before | now
        · exact induction front window before
        · rw [List.mem_singleton.mp now]
          exact last
      · rw [closed]
        exact induction front

/-- At a send the window is what was read since the upload before, and the
averages report it. -/
structure Sending (history : List Event) (station : Station) : Prop where
  bmp280 : (readings (sinceLast Event.isSend history)).bmp280 ≠ []
  inRange : (readings (sinceLast Event.isSend history)).From Readings.InRange
  reported : Reported (readings (sinceLast Event.isSend history))
    (ESP.reportOf station.data.averages.published)

theorem sending_exec (started : initial.Started) (actions : List Action)
    (offers : ∀ action ∈ actions, action.Offers Readings.InRange)
    (sending : ((Station.machine .configured).exec initial
      actions).control.point = .sendMeasurements) :
    Sending ((Station.machine .configured).trace initial actions)
      ((Station.machine .configured).exec initial actions) := by
  have consistent := Station.consistent_exec .configured started actions
  have pace := pace_exec .configured started actions
  have books := books_exec .configured started actions
  have unsent := unsent_at_send started sending
  have current := (@recent_exec .configured initial started
    actions).unsent unsent
  have pending := (books.fed.window unsent).2
  simp only [Station.pending, sending] at pending
  have known := consistent.espState .sendData (by rw [sending]; rfl)
  have served := pace.served (by rw [sending]; decide)
  have least := pace.le_ds18b20
  obtain ⟨bmpLength, dhtLength, dsLength⟩ := pace.lengths consistent
  have accounts := books.accounts
  have inRange := (offered_exec .configured Readings.InRange initial actions
    offers).1
  have periodEq : UpdatePeriod.configured.serverUpdatePeriod = 3600 := rfl
  rw [← pending] at accounts served least bmpLength dhtLength dsLength
  rw [sending, known] at served
  simp only [Control.readouts, Control.unsettled, sending, reduceCtorEq,
    or_self, if_false] at least
  simp only [Point.measured, or_true, if_true] at served
  have indoor : (ledger ((Station.machine .configured).trace initial
      actions)).window.bmp280 ≠ [] := by
    apply List.ne_nil_of_length_pos
    omega
  have outdoor : (ledger ((Station.machine .configured).trace initial
      actions)).window.ds18b20 ≠ [] := by
    apply List.ne_nil_of_length_pos
    split at least <;> omega
  refine ⟨?_, ?_, ?_⟩ <;> rw [← current]
  · exact indoor
  · exact inRange
  · exact accounts.reported indoor outdoor ⟨by omega, by omega, by omega⟩
      inRange

/-- Uploads that are not below zero are sent whole, and each request says what
was read since the one before. -/
theorem requests_reported {server : List UInt8 → Option ESP.Report}
    (serves : ESP.Serves server) (started : initial.Started)
    {actions : List Action}
    (offers : ∀ action ∈ actions, action.Offers Readings.InRange)
    (warm : ∀ window ∈ uploadWindows ((Station.machine .configured).trace
      initial actions), 0 ≤ indoorMean window) :
    let history := (Station.machine .configured).trace initial actions
    (Station.machine .configured).Along Station.NumbersFit initial actions ∧
      List.Forall₂ Reported (uploadWindows history)
        ((requests history).filterMap server) := by
  induction actions using List.reverseRecOn with
  | nil => exact ⟨trivial, List.Forall₂.nil⟩
  | append_singleton earlier action induction =>
      have front : ∀ other ∈ earlier, other.Offers Readings.InRange :=
        fun other member => offers other (List.mem_append_left _ member)
      intro history
      rcases upload_concat .configured initial earlier action with
        ⟨⟨taken, rfl⟩, point, closed, sent⟩ | ⟨fits, closed, sent⟩
      · obtain ⟨nonempty, inRange, reported⟩ :=
          sending_exec started earlier front point
        rw [closed] at warm
        have nonnegative := warm _ (List.mem_append_right _
          List.mem_cons_self)
        obtain ⟨fit, before⟩ := induction front fun window member =>
          warm window (List.mem_append_left _ member)
        refine ⟨Machine.along_concat.mpr ⟨fit, fun _ =>
          reported.fits nonempty inRange nonnegative⟩, ?_⟩
        have understood := serves.postText
          (le_of_le_of_eq nonnegative reported.temperature.symm)
        simp only [history, closed, sent, List.filterMap_append,
          List.filterMap_cons, List.filterMap_nil, understood]
        exact List.rel_append before (.cons reported .nil)
      · rw [closed] at warm
        obtain ⟨fit, before⟩ := induction front warm
        refine ⟨Machine.along_concat.mpr ⟨fit, fits⟩, ?_⟩
        simp only [history, closed, sent]
        exact before

theorem Action.Offers.inRange {readings : Readings} {action : Action}
    (steady : action.Offers (· = readings)) (inRange : readings.InRange) :
    action.Offers Readings.InRange := by
  cases action with
  | timerCallback => trivial
  | mainStep taken =>
      rw [show taken = readings from steady]
      exact inRange

theorem indoorMean_of_steady {readings : Readings} {window : Window}
    (steady : window.From (· = readings))
    (warm : 0 ≤ readings.bmp280.temperature.toInt) : 0 ≤ indoorMean window := by
  apply truncatedMean_nonneg
  intro sample sampled
  obtain ⟨meas, measIn, rfl⟩ := List.mem_map.mp sampled
  obtain ⟨taken, rfl, rfl⟩ := steady.bmp280 meas measIn
  exact warm

theorem uploadWindows_send (history : List Event) (texts : List (List UInt8)) :
    uploadWindows (history ++ [.sendMeasurements texts]) ≠ [] := by
  simp [uploadWindows, Event.isSend, Event.uploadCall?]

theorem requests_send (history : List Event) (texts : List (List UInt8)) :
    requests (history ++ [.sendMeasurements texts]) ≠ [] := by
  simp [requests, Event.request?]

/-- An hour with the same readings, and the request that ends it. -/
theorem exists_hour (steadily : Readings) :
    ∃ actions : List Action,
      let history := (Station.machine .configured).trace Station.zeroed actions
      (∀ action ∈ actions, action.Offers (· = steadily)) ∧
        uploadWindows history ≠ [] ∧ requests history ≠ [] := by
  obtain ⟨steps, -, sending⟩ := exists_send .configured Station.zeroed_started
    (List.ne_nil_of_length_pos (l := List.replicate 3600 steadily)
      (by rw [List.length_replicate]; decide))
    (by rw [List.length_replicate]; exact Nat.dvd_refl 3600) steadily
  refine ⟨pacedRun (List.replicate 3600 steadily) ++
    List.replicate steps (.mainStep steadily) ++ [.mainStep steadily],
    ?_, ?_, ?_⟩
  · intro action member
    rcases List.mem_append.mp member with before | last
    · exact offers_steady before
    · rw [List.mem_singleton.mp last]
      exact rfl
  · rw [Machine.trace_concat, Station.machine_output, Station.event,
      Station.call, sending]
    exact uploadWindows_send _ _
  · rw [Machine.trace_concat, Station.machine_output, Station.event,
      Station.call, sending]
    exact requests_send _ _

def mildReadings : Readings :=
  ⟨⟨100000, 2150⟩, ⟨.positive, 3, 50⟩, ⟨40, 21⟩⟩

theorem mildReadings_inRange : mildReadings.InRange :=
  ⟨⟨by decide, by decide⟩, by decide, by decide⟩

/-- Nothing marks the requests off in the stream but their own lengths, and a
module that keeps to its documentation brings the server each of them whole, in
order and once, under every interleaving. -/
theorem modem_receives_calls {State : Type u} {modem : ESP.Modem State}
    (documented : modem.Documented) {first : State} {connected : Bool}
    (waiting : modem.Waiting connected first) (period : UpdatePeriod)
    (started : initial.Started) (actions : List Action)
    (fits : (Station.machine period).Along Station.NumbersFit initial
      actions) :
    let history := (Station.machine period).trace initial actions
    modem.machine.trace first (uartStream history) = requests history ∧
      (∃ connected, modem.Waiting connected
        (modem.machine.exec first (uartStream history))) ∧
      ((Station.machine period).exec initial
        actions).data.buffers.InBounds := by
  intro history
  obtain ⟨⟨connected, waits, -⟩, sent, inBounds⟩ :=
    attended_exec documented waiting started fits
  exact ⟨sent, ⟨connected, waits⟩, inBounds⟩

theorem modem_receives_calls_first_hour :
    ∃ actions : List Action,
      let history := (Station.machine .configured).trace Station.zeroed actions
      let modem := ESP.listening
      requests history ≠ [] ∧
        modem.machine.trace (Announced.Receiver.idle false)
            (uartStream history) = requests history ∧
          (∃ connected, modem.Waiting connected (modem.machine.exec
            (Announced.Receiver.idle false) (uartStream history))) ∧
          ((Station.machine .configured).exec Station.zeroed
            actions).data.buffers.InBounds := by
  obtain ⟨actions, steady, -, sent⟩ := exists_hour mildReadings
  have reported := requests_reported ESP.recorded_serves
    Station.zeroed_started
    (fun action member => (steady action member).inRange mildReadings_inRange)
    (fun window member => indoorMean_of_steady
      (offered_uploadWindows Station.zeroed_started steady window member)
      (by decide))
  exact ⟨actions, sent, modem_receives_calls ESP.listening_documented rfl
    .configured Station.zeroed_started actions reported.1⟩

end Served

end QuarkMeteoStation
