import QuarkMeteoStation.Average.Window
import QuarkMeteoStation.Main.Control

namespace QuarkMeteoStation

open Library

/-! Which readings belong to which upload, and which of them the accumulators
have been fed. -/

/-- The readings of the current window, those of all earlier windows, and
whether the current cycle has sent its measurements. -/
structure Ledger where
  uploaded : Window
  window : Window
  sent : Bool
  deriving DecidableEq, Repr

namespace Window

def append (first second : Window) : Window where
  bmp280 := first.bmp280 ++ second.bmp280
  ds18b20 := first.ds18b20 ++ second.ds18b20
  dht11 := first.dht11 ++ second.dht11

/-- A reading joins the window in the call that takes it. -/
def observe (window : Window) : Event → Window
  | .getBMP280 meas => window.addBMP280 meas
  | .getTemperature meas => window.addDS18B20 meas
  | .getDHT11 meas => window.addDHT11 meas
  | _ => window

/-- What one call makes of the readings the accumulators hold. -/
def account (window : Window) : Event → Window
  | .averageUpdateBMP280 meas => window.addBMP280 meas
  | .averageUpdateDS18B20 meas => window.addDS18B20 meas
  | .averageUpdateDHT11 meas => window.addDHT11 meas
  | .averageReset => empty
  | _ => window

end Window

namespace Ledger

def opened : Ledger := ⟨Window.empty, Window.empty, false⟩

/-- A window ends with the cycle that sent it: the next cycle to begin opens
another. -/
def observe (ledger : Ledger) : Event → Ledger
  | .cycleStart =>
      if ledger.sent then
        ⟨ledger.uploaded.append ledger.window, Window.empty, false⟩
      else ledger
  | .sendMeasurements _ => { ledger with sent := true }
  | event => { ledger with window := ledger.window.observe event }

end Ledger

def ledger (history : List Event) : Ledger :=
  history.foldl Ledger.observe Ledger.opened

def readings (history : List Event) : Window :=
  history.foldl Window.observe Window.empty

/-- The readings the accumulators have been fed since they were cleared. -/
def accounted (history : List Event) : Window :=
  history.foldl Window.account Window.empty

/-- Every reading is in exactly one window. -/
theorem ledger_partition (history : List Event) :
    (ledger history).uploaded.append (ledger history).window =
      readings history := by
  unfold ledger readings
  induction history using List.reverseRecOn with
  | nil => rfl
  | append_singleton earlier event induction =>
      rw [List.foldl_concat, List.foldl_concat, ← induction]
      generalize earlier.foldl Ledger.observe Ledger.opened = before
      cases event with
      | cycleStart =>
          simp only [Ledger.observe]
          split <;> simp [Window.append, Window.empty, Window.observe]
      | _ => simp [Ledger.observe, Window.append, Window.observe,
          Window.addBMP280, Window.addDS18B20, Window.addDHT11]

namespace Station

/-- The window once the statement about to run has fed its reading in. -/
def pending (station : Station) (window : Window) : Window :=
  match station.control.point with
  | .averageUpdateBMP280 => window.addBMP280 station.data.bmp280Meas
  | .averageUpdateDS18B20 => window.addDS18B20 station.data.ds18b20Meas
  | .averageUpdateDHT11 => window.addDHT11 station.data.dht11Meas
  | _ => window

end Station

/-- The points of a cycle after it has sent and cleared the accumulators. -/
def Point.afterUpload : Point → Bool
  | setIdle | guiUpdate | setUpToDate | testUpdateState => true
  | _ => false

/-- The accumulators have been fed the ledger's window, up to the reading the
next statement feeds in, and nothing once it has been uploaded. -/
structure Fed (ledger : Ledger) (accounted : Window) (station : Station) :
    Prop where
  window : ledger.sent = false →
    station.control.point ≠ .averageReset ∧
      ledger.window = station.pending accounted
  uploaded : ledger.sent = true →
    station.control.point = .averageReset ∧ ledger.window = accounted ∨
      station.control.point.afterUpload = true ∧ accounted = Window.empty

theorem Fed.timerCallback {ledger : Ledger} {accounted : Window}
    {station : Station} (fed : Fed ledger accounted station)
    (period : UpdatePeriod) :
    Fed ledger accounted (station.step period .timerCallback) := by
  obtain ⟨window, uploaded⟩ := fed
  refine ⟨?_, ?_⟩
  · simpa [Station.step, Station.pending] using window
  · simpa [Station.step] using uploaded

theorem Fed.mainStep {ledger : Ledger} {accounted : Window}
    {station : Station} (fed : Fed ledger accounted station)
    (period : UpdatePeriod) (readings : Readings) :
    Fed ((station.call readings).toList.foldl Ledger.observe ledger)
      ((station.call readings).toList.foldl Window.account accounted)
      (station.step period (.mainStep readings)) := by
  obtain ⟨window, uploaded⟩ := fed
  cases sent : ledger.sent with
  | false =>
      obtain ⟨elsewhere, agrees⟩ := window sent
      refine ⟨?_, ?_⟩ <;> unfold Station.step Station.call <;>
        cases point : station.control.point <;>
        simp only [Control.next, point] <;> (try split) <;>
        simp_all [Ledger.observe, Window.observe, Window.account,
          Station.pending, Data.execute]
  | true =>
      have past := uploaded sent
      refine ⟨?_, ?_⟩ <;> unfold Station.step Station.call <;>
        cases point : station.control.point <;>
        simp only [Control.next, point] <;> (try split) <;>
        simp_all [Ledger.observe, Window.observe, Window.account,
          Station.pending, Point.afterUpload]

theorem ledger_append (history later : List Event) :
    ledger (history ++ later) = later.foldl Ledger.observe (ledger history) :=
  List.foldl_append

theorem readings_append (history later : List Event) :
    readings (history ++ later) =
      later.foldl Window.observe (readings history) :=
  List.foldl_append

theorem accounted_append (history later : List Event) :
    accounted (history ++ later) =
      later.foldl Window.account (accounted history) :=
  List.foldl_append

theorem Station.accounts_step {period : UpdatePeriod} {station : Station}
    {window : Window} (accounts : station.data.averages.Accounts window)
    (action : Action) :
    (station.step period action).data.averages.Accounts
      ((station.event action).toList.foldl Window.account window) := by
  cases action with
  | timerCallback => exact accounts
  | mainStep readings =>
      unfold Station.step Station.event Station.call
      cases station.control.point with
      | testUpdateState =>
          dsimp only [Data.execute]
          split <;> exact accounts
      | averageUpdateDS18B20 => exact averageUpdateDS18B20_accounts accounts _
      | averageUpdateBMP280 => exact averageUpdateBMP280_accounts accounts _
      | averageUpdateDHT11 => exact averageUpdateDHT11_accounts accounts _
      | averageReset => exact averageReset_accounts _
      | _ =>
          simp only [Data.execute, Option.toList_some, Option.toList_none,
            List.foldl_cons, List.foldl_nil, Window.account]
          exact accounts

structure Books (history : List Event) (station : Station) : Prop where
  fed : Fed (ledger history) (accounted history) station
  accounts : station.data.averages.Accounts (accounted history)

theorem Books.exec (period : UpdatePeriod) {initial : Station}
    (books : Books [] initial) (actions : List Action) :
    Books ((Station.machine period).trace initial actions)
      ((Station.machine period).exec initial actions) := by
  refine (Station.machine period).historyInvariant (fun _ => True) Books ?_
    initial books actions (fun _ _ => trivial)
  intro history station action _ books
  refine ⟨?_, ?_⟩
  · rw [ledger_append, accounted_append]
    cases action with
    | timerCallback =>
        have fed := books.fed.timerCallback period
        exact ⟨fed.window, fed.uploaded⟩
    | mainStep readings => exact books.fed.mainStep period readings
  · rw [accounted_append]
    exact Station.accounts_step books.accounts action

theorem books_open {station : Station}
    (point : station.control.point = .testUpdateState)
    (accounts : station.data.averages.Accounts Window.empty) :
    Books [] station := by
  refine ⟨⟨fun _ => ?_, fun sent => by contradiction⟩, accounts⟩
  rw [Station.pending, point]
  exact ⟨by decide, rfl⟩

theorem books_exec (period : UpdatePeriod) {initial : Station}
    (started : initial.Started) (actions : List Action) :
    Books ((Station.machine period).trace initial actions)
      ((Station.machine period).exec initial actions) := by
  obtain ⟨averages, cleared⟩ := started.averages
  refine (books_open ?_ ?_).exec period actions
  · rw [started.control]
    rfl
  · rw [cleared]
    exact averageReset_accounts averages

/-- Every reading of a window was offered by readings of a certain kind. -/
structure Window.From (offered : Readings → Prop) (window : Window) : Prop where
  bmp280 : ∀ meas ∈ window.bmp280,
    ∃ readings, offered readings ∧ readings.bmp280 = meas
  ds18b20 : ∀ meas ∈ window.ds18b20,
    ∃ readings, offered readings ∧ readings.ds18b20 = meas
  dht11 : ∀ meas ∈ window.dht11,
    ∃ readings, offered readings ∧ readings.dht11 = meas

namespace Window.From

variable {offered : Readings → Prop} {window : Window}

theorem empty : Window.empty.From offered := by
  constructor <;> simp [Window.empty]

theorem observe_call (fromOffered : window.From offered) (station : Station)
    {readings : Readings} (taken : offered readings) :
    ∀ event ∈ station.call readings, (window.observe event).From offered := by
  intro event called
  have kinds : event = .getBMP280 readings.bmp280 ∨
      event = .getTemperature readings.ds18b20 ∨
      event = .getDHT11 readings.dht11 ∨ window.observe event = window := by
    revert called
    unfold Station.call
    cases station.control.point <;> simp only [Option.mem_def] <;>
      (try split) <;> simp only [Option.some.injEq, reduceCtorEq] <;>
      intro called <;> first
        | exact called.elim
        | subst called; simp [Window.observe]
  obtain ⟨bmp280, ds18b20, dht11⟩ := fromOffered
  rcases kinds with rfl | rfl | rfl | same
  · refine ⟨?_, ds18b20, dht11⟩
    intro meas member
    rcases List.mem_append.mp member with old | new
    · exact bmp280 meas old
    · exact ⟨readings, taken, (List.mem_singleton.mp new).symm⟩
  · refine ⟨bmp280, ?_, dht11⟩
    intro meas member
    rcases List.mem_append.mp member with old | new
    · exact ds18b20 meas old
    · exact ⟨readings, taken, (List.mem_singleton.mp new).symm⟩
  · refine ⟨bmp280, ds18b20, ?_⟩
    intro meas member
    rcases List.mem_append.mp member with old | new
    · exact dht11 meas old
    · exact ⟨readings, taken, (List.mem_singleton.mp new).symm⟩
  · rw [same]
    exact ⟨bmp280, ds18b20, dht11⟩

end Window.From

theorem Ledger.window_observe (ledger : Ledger) (event : Event) :
    (ledger.observe event).window = ledger.window.observe event ∨
      (ledger.observe event).window = Window.empty := by
  cases event with
  | cycleStart =>
      unfold Ledger.observe
      cases ledger.sent with
      | false => exact Or.inl rfl
      | true => exact Or.inr rfl
  | _ => exact Or.inl rfl

def Action.Offers (offered : Readings → Prop) : Action → Prop
  | .timerCallback => True
  | .mainStep readings => offered readings

theorem offered_exec (period : UpdatePeriod) (offered : Readings → Prop)
    (initial : Station) (actions : List Action)
    (offers : ∀ action ∈ actions, action.Offers offered) :
    (ledger ((Station.machine period).trace initial actions)).window.From
        offered ∧
      (readings ((Station.machine period).trace initial actions)).From
        offered := by
  refine (Station.machine period).historyInvariant
    (fun action => action.Offers offered)
    (fun history _ => (ledger history).window.From offered ∧
      (readings history).From offered) ?_
    initial ⟨Window.From.empty, Window.From.empty⟩ actions offers
  intro history station action offer holds
  obtain ⟨current, all⟩ := holds
  cases action with
  | timerCallback =>
      rw [ledger_append, readings_append]
      exact ⟨⟨current.bmp280, current.ds18b20, current.dht11⟩, all⟩
  | mainStep taken =>
      rw [ledger_append, readings_append]
      cases emission : station.call taken with
      | none =>
          simp only [Station.machine_output, Station.event, emission]
          exact ⟨current, all⟩
      | some event =>
          simp only [Station.machine_output, Station.event, emission,
            Option.toList_some, List.foldl_cons, List.foldl_nil]
          refine ⟨?_, all.observe_call station offer event emission⟩
          rcases (ledger history).window_observe event with same | opened
          · rw [same]
            exact current.observe_call station offer event emission
          · rw [opened]
            exact Window.From.empty

end QuarkMeteoStation
