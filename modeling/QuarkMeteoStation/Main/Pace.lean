import QuarkMeteoStation.Main.Ledger

namespace QuarkMeteoStation

open Library

/-! How many readings the accumulators can hold, read off the control state
alone. -/

namespace Point

/-- A cycle is under way and its BMP280 reading is not yet accounted. -/
def sampling : Point → Bool
  | switchDS18B20State | requestConversion | setGetMeasurement
  | getTemperature | averageUpdateDS18B20 | setRequestConversion
  | getBMP280 | averageUpdateBMP280 => true
  | _ => false

def measured : Point → Bool
  | getDHT11 | averageUpdateDHT11 | switchESPState | connectToServer
  | setAwaitForConnection | incrementCounter | sendMeasurements
  | averageReset => true
  | _ => false

end Point

namespace Control

/-- The most BMP280 readings that can be accounted. -/
def capacity (period : UpdatePeriod) (control : Control) : Nat :=
  match control.espState with
  | .idle => control.serverUpdateCounter.toNat +
      if control.point.sampling ∨ (control.point = .testUpdateState ∧
        control.updateState = .updateRequest) then 0 else 1
  | .connectToServer => period.idleTicks +
      if control.point.measured then 1 else 0
  | .awaitForConnection => period.idleTicks + 1 + control.counter.toNat +
      if control.point.measured then 1 else 0
  | .sendData =>
      if control.point = .setIdle then 0
      else period.serverUpdatePeriod + if control.point.measured then 1 else 0

/-- The cycles in which `DS18B20_state` has moved, where `accounted` of them
have had their BMP280 reading accounted. -/
def readouts (control : Control) (accounted : Nat) : Nat :=
  accounted + if control.point = .getBMP280 ∨
    control.point = .averageUpdateBMP280 then 1 else 0

/-- Twice the readings that `DS18B20_state` does not know about yet. -/
def unsettled (control : Control) : Nat :=
  if control.point = .setRequestConversion then 2 else 0

variable {period : UpdatePeriod} {control : Control}

theorem capacity_timerCallback_le (consistent : control.Consistent period) :
    control.capacity period ≤
      (control.timerCallback period).capacity period := by
  rcases consistent.timerCallback_cases with
    ⟨idle, bound, counted, after⟩ | ⟨idle, bound, after⟩ | ⟨busy, after⟩
  · rw [after]
    simp only [capacity, idle, counted]
    split <;> split <;> omega
  · have elsewhere := consistent.idle_point idle
    rw [after]
    simp only [capacity, idle]
    cases point : control.point <;>
      simp_all [Point.sampling, Point.measured, Point.espState?] <;>
      (try split) <;> omega
  · rw [after]
    unfold capacity
    cases espState : control.espState <;> simp_all

/-- No step takes room away, except where the window is closed. -/
theorem capacity_next (consistent : control.Consistent period)
    (elsewhere : control.point ≠ .averageReset)
    (unfinished : control.point ≠ .setIdle) :
    control.capacity period ≤ (control.next period).capacity period := by
  have known := consistent.espState
  have fits := consistent.counter
  have counted := consistent.incrementCounter
  have connectionLt := period.connectionLt
  have idleTicks : period.idleTicks + period.espConnectionTime =
      period.serverUpdatePeriod := by
    unfold UpdatePeriod.idleTicks
    omega
  obtain ⟨point, updateState, espState, ticks, readout, counter⟩ := control
  cases point <;> cases espState <;> simp only [Control.next] <;>
    (try split) <;>
    simp_all [capacity, Point.sampling, Point.measured, Point.espState?,
      CounterFits] <;>
    omega

theorem capacity_averageUpdateBMP280
    (point : control.point = .averageUpdateBMP280) :
    (control.next period).capacity period = control.capacity period + 1 := by
  obtain ⟨point, updateState, espState, ticks, readout, counter⟩ := control
  cases point
  cases espState <;>
    simp [Control.next, capacity, Point.sampling, Point.measured]

theorem capacity_le (consistent : control.Consistent period) :
    control.capacity period + (if control.point.sampling then 1 else 0) ≤
      period.serverUpdatePeriod + 1 := by
  have bound := consistent.serverUpdateCounter
  have fits := consistent.counter
  have connectionLt := period.connectionLt
  have twoLe := period.twoLe
  have apart : control.point.sampling = true →
      control.point.measured = false := by
    cases control.point <;> simp [Point.sampling, Point.measured]
  have counterLt : control.espState = .awaitForConnection →
      control.counter.toNat < period.espConnectionTime := by
    intro awaiting
    unfold CounterFits at fits
    cases point : control.point <;> simp_all <;> omega
  unfold UpdatePeriod.idleTicks at bound
  unfold capacity UpdatePeriod.idleTicks
  cases sampling : control.point.sampling <;>
    cases espState : control.espState <;> simp_all <;> (repeat' split) <;>
    omega

/-- `DS18B20_state` alternates as the two kinds of readings come in. -/
theorem balance_next (consistent : control.Consistent period)
    (kept : control.point ≠ .averageReset) (bmp280 ds18b20 : Nat) :
    (control.next period).readouts
          (bmp280 + if control.point = .averageUpdateBMP280 then 1 else 0) +
        (control.next period).unsettled +
        (if (control.next period).ds18b20State = .requestConversion then 1
          else 0) + 2 * ds18b20 =
      control.readouts bmp280 + control.unsettled +
        (if control.ds18b20State = .requestConversion then 1 else 0) +
        2 * (ds18b20 +
          if control.point = .averageUpdateDS18B20 then 1 else 0) := by
  have readout := consistent.ds18b20State
  obtain ⟨point, updateState, espState, ticks, state, counter⟩ := control
  cases point with
  | averageReset => exact absurd rfl kept
  | testUpdateState =>
      simp only [next]
      split <;> cases state <;> simp [readouts, unsettled]
  | switchDS18B20State => cases state <;> simp [next, readouts, unsettled]
  | switchESPState =>
      cases espState <;> cases state <;> simp [next, readouts, unsettled]
  | testCounter =>
      simp only [next]
      split <;> cases state <;> simp [readouts, unsettled]
  | _ =>
      cases state <;>
        simp_all [next, readouts, unsettled, Point.ds18b20State?] <;> omega

end Control

structure Pace (period : UpdatePeriod) (control : Control) (window : Window) :
    Prop where
  bmp280 : window.bmp280.length ≤ control.capacity period
  dht11 : window.dht11.length + (if control.point = .getDHT11 ∨
    control.point = .averageUpdateDHT11 then 1 else 0) = window.bmp280.length
  ds18b20_le : 2 * window.ds18b20.length ≤
    control.readouts window.bmp280.length + control.unsettled +
      if control.ds18b20State = .requestConversion then 1 else 0
  le_ds18b20 : control.readouts window.bmp280.length + control.unsettled ≤
    2 * window.ds18b20.length +
      if control.ds18b20State = .requestConversion then 0 else 1
  served : control.point ≠ .setIdle →
    (if control.espState = .awaitForConnection ∨
      control.espState = .sendData then 1 else 0) +
    (if control.point.measured then 1 else 0) ≤ window.bmp280.length

theorem Station.length_account (station : Station) (readings : Readings)
    (window : Window) :
    let after := (station.call readings).toList.foldl Window.account window
    let kept (length : Nat) :=
      if station.control.point = .averageReset then 0 else length
    after.bmp280.length = kept (window.bmp280.length +
        if station.control.point = .averageUpdateBMP280 then 1 else 0) ∧
      after.ds18b20.length = kept (window.ds18b20.length +
        if station.control.point = .averageUpdateDS18B20 then 1 else 0) ∧
      after.dht11.length = kept (window.dht11.length +
        if station.control.point = .averageUpdateDHT11 then 1 else 0) := by
  unfold Station.call
  cases point : station.control.point with
  | testUpdateState =>
      by_cases requested : station.control.updateState = .updateRequest <;>
        simp [requested, Window.account]
  | _ =>
      simp [Window.account, Window.addBMP280, Window.addDS18B20,
        Window.addDHT11, Window.empty]

theorem Pace.timerCallback {period : UpdatePeriod} {control : Control}
    {window : Window} (pace : Pace period control window)
    (consistent : control.Consistent period) :
    Pace period (control.timerCallback period) window where
  bmp280 := Nat.le_trans pace.bmp280
    (Control.capacity_timerCallback_le consistent)
  dht11 := by
    rw [Control.point_timerCallback]
    exact pace.dht11
  ds18b20_le := by
    simpa [Control.readouts, Control.unsettled] using pace.ds18b20_le
  le_ds18b20 := by
    simpa [Control.readouts, Control.unsettled] using pace.le_ds18b20
  served := by
    have served := pace.served
    rcases consistent.timerCallback_cases with
      ⟨idle, -, -, after⟩ | ⟨idle, -, after⟩ | ⟨busy, after⟩ <;>
      rw [after] <;> simp_all

section MainStep

variable {period : UpdatePeriod} {station : Station} {window : Window}

private theorem Pace.bmp280_mainStep
    (pace : Pace period station.control window)
    (consistent : station.control.Consistent period) (readings : Readings) :
    ((station.call readings).toList.foldl Window.account
        window).bmp280.length ≤
      (station.control.next period).capacity period := by
  have length := (station.length_account readings window).1
  have room := pace.bmp280
  dsimp only at length
  rw [length]
  by_cases cleared : station.control.point = .averageReset
  · rw [if_pos cleared]
    exact Nat.zero_le _
  rw [if_neg cleared]
  by_cases measuring : station.control.point = .averageUpdateBMP280
  · rw [if_pos measuring, Control.capacity_averageUpdateBMP280 measuring]
    omega
  rw [if_neg measuring]
  by_cases finished : station.control.point = .setIdle
  · have sending := consistent.espState .sendData (by rw [finished]; rfl)
    simp only [Control.capacity, sending, if_pos finished] at room
    omega
  · have kept := Control.capacity_next consistent cleared finished
    omega

private theorem Pace.dht11_mainStep
    (pace : Pace period station.control window) (readings : Readings) :
    let after := (station.call readings).toList.foldl Window.account window
    after.dht11.length + (if (station.control.next period).point = .getDHT11 ∨
        (station.control.next period).point = .averageUpdateDHT11 then 1
        else 0) = after.bmp280.length := by
  obtain ⟨bmp280, -, dht11⟩ := station.length_account readings window
  have balance := pace.dht11
  dsimp only at bmp280 dht11 ⊢
  rw [bmp280, dht11]
  cases point : station.control.point <;>
    simp only [point, reduceCtorEq, if_true, if_false] at balance ⊢ <;>
    simp only [Control.next, point] <;> (try split) <;> simp_all

/-- Both bounds on the DS18B20 readings come from one balance. -/
private theorem Pace.ds18b20_mainStep
    (pace : Pace period station.control window)
    (consistent : station.control.Consistent period) (readings : Readings) :
    let after := (station.call readings).toList.foldl Window.account window
    let next := station.control.next period
    2 * after.ds18b20.length ≤
        next.readouts after.bmp280.length + next.unsettled +
          (if next.ds18b20State = .requestConversion then 1 else 0) ∧
      next.readouts after.bmp280.length + next.unsettled ≤
        2 * after.ds18b20.length +
          if next.ds18b20State = .requestConversion then 0 else 1 := by
  obtain ⟨bmp280, ds18b20, -⟩ := station.length_account readings window
  have most := pace.ds18b20_le
  have least := pace.le_ds18b20
  dsimp only at bmp280 ds18b20 ⊢
  rw [bmp280, ds18b20]
  by_cases cleared : station.control.point = .averageReset
  · simp [cleared, Control.next, Control.readouts, Control.unsettled]
  have balance := Control.balance_next consistent cleared
    window.bmp280.length window.ds18b20.length
  have complement (control : Control) :
      (if control.ds18b20State = .requestConversion then 1 else 0) +
        (if control.ds18b20State = .requestConversion then 0 else 1) = 1 := by
    split <;> rfl
  have before := complement station.control
  have after := complement (station.control.next period)
  rw [if_neg cleared, if_neg cleared]
  exact ⟨by omega, by omega⟩

private theorem Pace.served_mainStep
    (pace : Pace period station.control window)
    (consistent : station.control.Consistent period) (readings : Readings)
    (unfinished : (station.control.next period).point ≠ .setIdle) :
    (if (station.control.next period).espState = .awaitForConnection ∨
        (station.control.next period).espState = .sendData then 1 else 0) +
      (if (station.control.next period).point.measured then 1 else 0) ≤
        ((station.call readings).toList.foldl Window.account
          window).bmp280.length := by
  have length := (station.length_account readings window).1
  have served := pace.served
  have known := consistent.espState
  revert unfinished
  dsimp only at length
  rw [length]
  cases point : station.control.point <;>
    simp only [point, reduceCtorEq, if_true, if_false] at served ⊢ <;>
    simp only [Control.next, point] <;> (try split) <;>
    simp_all [Point.espState?, Point.measured]
  omega

theorem Pace.mainStep (pace : Pace period station.control window)
    (consistent : station.control.Consistent period) (readings : Readings) :
    Pace period (station.control.next period)
      ((station.call readings).toList.foldl Window.account window) where
  bmp280 := pace.bmp280_mainStep consistent readings
  dht11 := pace.dht11_mainStep readings
  ds18b20_le := (pace.ds18b20_mainStep consistent readings).1
  le_ds18b20 := (pace.ds18b20_mainStep consistent readings).2
  served := pace.served_mainStep consistent readings

end MainStep

theorem Pace.lengths {period : UpdatePeriod} {control : Control}
    {window : Window} (pace : Pace period control window)
    (consistent : control.Consistent period) :
    window.bmp280.length + (if control.point.sampling then 1 else 0) ≤
        period.serverUpdatePeriod + 1 ∧
      window.dht11.length ≤ window.bmp280.length ∧
      2 * window.ds18b20.length ≤ period.serverUpdatePeriod + 2 := by
  have room := Control.capacity_le consistent
  have bmp280 := pace.bmp280
  have dht11 := pace.dht11
  have ds18b20 := pace.ds18b20_le
  have readout := consistent.ds18b20State
  refine ⟨by omega, by omega, ?_⟩
  unfold Control.readouts Control.unsettled at ds18b20
  cases point : control.point <;>
    simp_all [Point.sampling, Point.ds18b20State?] <;> (try split at ds18b20) <;>
    omega

theorem Pace.exec {period : UpdatePeriod} {initial : Station}
    (pace : Pace period initial.control Window.empty)
    (consistent : initial.control.Consistent period) (actions : List Action) :
    ((Station.machine period).exec initial actions).control.Consistent period ∧
      Pace period ((Station.machine period).exec initial actions).control
        (accounted ((Station.machine period).trace initial actions)) := by
  refine (Station.machine period).historyInvariant (fun _ => True)
    (fun history station => station.control.Consistent period ∧
      Pace period station.control (accounted history)) ?_
    initial ⟨consistent, pace⟩ actions (fun _ _ => trivial)
  intro history station action _ holds
  obtain ⟨consistent, pace⟩ := holds
  refine ⟨by simpa [Station.machine] using consistent.step action, ?_⟩
  rw [accounted_append]
  cases action with
  | timerCallback => exact pace.timerCallback consistent
  | mainStep readings => exact pace.mainStep consistent readings

theorem pace_exec (period : UpdatePeriod) {initial : Station}
    (started : initial.Started) (actions : List Action) :
    Pace period ((Station.machine period).exec initial actions).control
      (accounted ((Station.machine period).trace initial actions)) := by
  have opened : Pace period initial.control Window.empty := by
    rw [started.control]
    refine ⟨?_, ?_, ?_, ?_, ?_⟩ <;>
      simp [Window.empty, Control.initial, Control.readouts,
        Control.unsettled, Point.measured]
  have consistent : initial.control.Consistent period := by
    rw [started.control]
    exact Control.consistent_initial period
  exact (opened.exec consistent actions).2

end QuarkMeteoStation
