import QuarkMeteoStation.Main

namespace QuarkMeteoStation

open Library

/-! The joint invariant of the four variables the interrupt and the main loop
share. -/

/-- The ticks that are counted before a connection is requested. -/
def UpdatePeriod.idleTicks (period : UpdatePeriod) : Nat :=
  period.serverUpdatePeriod - period.espConnectionTime

namespace Point

/-- What `ESP_state` holds for sure while a statement is about to run. -/
def espState? : Point → Option ESPTransmissionState
  | connectToServer | setAwaitForConnection => some .connectToServer
  | incrementCounter | testCounter | setSendData => some .awaitForConnection
  | clearCounter | sendMeasurements | averageReset | setIdle => some .sendData
  | _ => none

def ds18b20State? : Point → Option DS18B20ReadoutState
  | requestConversion | setGetMeasurement => some .requestConversion
  | getTemperature | averageUpdateDS18B20 | setRequestConversion =>
      some .getMeasurement
  | _ => none

/-- The statements that can come next. -/
def successors : Point → List Point
  | testUpdateState => [testUpdateState, switchDS18B20State]
  | switchDS18B20State => [requestConversion, getTemperature]
  | requestConversion => [setGetMeasurement]
  | setGetMeasurement => [getBMP280]
  | getTemperature => [averageUpdateDS18B20]
  | averageUpdateDS18B20 => [setRequestConversion]
  | setRequestConversion => [getBMP280]
  | getBMP280 => [averageUpdateBMP280]
  | averageUpdateBMP280 => [getDHT11]
  | getDHT11 => [averageUpdateDHT11]
  | averageUpdateDHT11 => [switchESPState]
  | switchESPState =>
      [guiUpdate, connectToServer, incrementCounter, sendMeasurements]
  | connectToServer => [setAwaitForConnection]
  | setAwaitForConnection => [guiUpdate]
  | incrementCounter => [testCounter]
  | testCounter => [setSendData, guiUpdate]
  | setSendData => [clearCounter]
  | clearCounter => [guiUpdate]
  | sendMeasurements => [averageReset]
  | averageReset => [setIdle]
  | setIdle => [guiUpdate]
  | guiUpdate => [setUpToDate]
  | setUpToDate => [testUpdateState]

end Point

namespace Control

/-- The values the counter of the awaiting state may have. -/
def CounterFits (period : UpdatePeriod) (control : Control) : Prop :=
  match control.point with
  | .testCounter => control.counter.toNat < period.espConnectionTime
  | .setSendData | .clearCounter =>
      control.counter.toNat + 1 = period.espConnectionTime
  | _ =>
      if control.espState = .awaitForConnection then
        control.counter.toNat + 1 < period.espConnectionTime
      else control.counter = 0

structure Consistent (period : UpdatePeriod) (control : Control) : Prop where
  serverUpdateCounter :
    control.serverUpdateCounter.toNat < period.idleTicks
  counting : control.espState ≠ .idle → control.serverUpdateCounter = 0
  espState : ∀ state ∈ control.point.espState?, control.espState = state
  ds18b20State : ∀ state ∈ control.point.ds18b20State?,
    control.ds18b20State = state
  counter : control.CounterFits period

variable {period : UpdatePeriod} {control : Control}

theorem consistent_initial (period : UpdatePeriod) :
    initial.Consistent period where
  serverUpdateCounter := Nat.sub_pos_of_lt period.connectionLt
  counting := fun _ => rfl
  espState := by simp [initial, Point.espState?]
  ds18b20State := by simp [initial, Point.ds18b20State?]
  counter := by simp [initial, CounterFits]

theorem Consistent.timerCallback_cases (consistent : control.Consistent period) :
    (control.espState = .idle ∧
      control.serverUpdateCounter.toNat + 1 < period.idleTicks ∧
      (control.serverUpdateCounter + 1).toNat =
        control.serverUpdateCounter.toNat + 1 ∧
      control.timerCallback period =
        { control with
          updateState := .updateRequest
          serverUpdateCounter := control.serverUpdateCounter + 1 }) ∨
    (control.espState = .idle ∧
      control.serverUpdateCounter.toNat + 1 = period.idleTicks ∧
      control.timerCallback period =
        { control with
          updateState := .updateRequest
          serverUpdateCounter := 0
          espState := .connectToServer }) ∨
    (control.espState ≠ .idle ∧
      control.timerCallback period =
        { control with updateState := .updateRequest }) := by
  have bound := consistent.serverUpdateCounter
  have periodLe := period.periodLe
  have counted : (control.serverUpdateCounter + 1).toNat =
      control.serverUpdateCounter.toNat + 1 := by
    rw [UInt16.toNat_add, UInt16.toNat_one]
    unfold UpdatePeriod.idleTicks at bound
    omega
  by_cases idle : control.espState = .idle
  · simp only [timerCallback, if_pos idle]
    by_cases due : period.idleTicks ≤ control.serverUpdateCounter.toNat + 1
    · refine Or.inr (Or.inl ⟨idle, by omega, ?_⟩)
      rw [if_pos (by rw [counted]; exact due)]
    · refine Or.inl ⟨idle, by omega, counted, ?_⟩
      rw [if_neg (by rw [counted]; exact due)]
  · refine Or.inr (Or.inr ⟨idle, ?_⟩)
    simp only [timerCallback, if_neg idle]
    rw [if_neg]
    rw [consistent.counting idle]
    exact Nat.not_le.mpr (Nat.sub_pos_of_lt period.connectionLt)

@[simp] theorem point_timerCallback :
    (control.timerCallback period).point = control.point := by
  simp only [timerCallback]
  split <;> split <;> rfl

@[simp] theorem counter_timerCallback :
    (control.timerCallback period).counter = control.counter := by
  simp only [timerCallback]
  split <;> split <;> rfl

@[simp] theorem ds18b20State_timerCallback :
    (control.timerCallback period).ds18b20State = control.ds18b20State := by
  simp only [timerCallback]
  split <;> split <;> rfl

@[simp] theorem updateState_timerCallback :
    (control.timerCallback period).updateState = .updateRequest := by
  simp only [timerCallback]
  split <;> split <;> rfl

theorem next_mem_successors (period : UpdatePeriod) (control : Control) :
    (control.next period).point ∈ control.point.successors := by
  cases point : control.point <;> simp only [next, point] <;>
    (try split) <;> simp [Point.successors, point]

@[simp] theorem serverUpdateCounter_next :
    (control.next period).serverUpdateCounter =
      control.serverUpdateCounter := by
  unfold next
  split <;> (try split) <;> rfl

theorem espState_next :
    (control.next period).espState =
      match control.point with
      | .setAwaitForConnection => .awaitForConnection
      | .setSendData => .sendData
      | .setIdle => .idle
      | _ => control.espState := by
  unfold next
  cases control.point <;> simp only <;> split <;> rfl

theorem Consistent.idle_point (consistent : control.Consistent period)
    (idle : control.espState = .idle) : control.point.espState? = none := by
  cases known : control.point.espState? with
  | none => rfl
  | some state =>
      have holds := consistent.espState state known
      rw [idle] at holds
      subst holds
      revert known
      cases control.point <;> simp [Point.espState?]

theorem Consistent.timerCallback (consistent : control.Consistent period) :
    (control.timerCallback period).Consistent period := by
  have positive : 0 < period.idleTicks := Nat.sub_pos_of_lt period.connectionLt
  rcases consistent.timerCallback_cases with
    ⟨idle, bound, counted, after⟩ | ⟨idle, bound, after⟩ | ⟨busy, after⟩
  · rw [after]
    exact ⟨by rw [counted]; exact bound, fun busy => absurd idle busy,
      consistent.espState, consistent.ds18b20State, consistent.counter⟩
  · rw [after]
    refine ⟨positive, fun _ => rfl, ?_, consistent.ds18b20State, ?_⟩
    · simp [consistent.idle_point idle]
    · have fits := consistent.counter
      unfold CounterFits at fits ⊢
      cases point : control.point <;> simp_all
  · rw [after]
    exact ⟨consistent.serverUpdateCounter, consistent.counting,
      consistent.espState, consistent.ds18b20State, consistent.counter⟩

theorem Consistent.incrementCounter (consistent : control.Consistent period)
    (point : control.point = .incrementCounter) :
    (control.counter + 1).toNat = control.counter.toNat + 1 ∧
      control.counter.toNat + 1 < period.espConnectionTime := by
  have awaiting : control.espState = .awaitForConnection :=
    consistent.espState _ (by rw [point]; rfl)
  have fits := consistent.counter
  have connectionLe := period.connectionLe
  rw [CounterFits, point] at fits
  simp only [awaiting, if_true] at fits
  refine ⟨?_, fits⟩
  rw [UInt8.toNat_add, UInt8.toNat_one]
  omega

theorem Consistent.next (consistent : control.Consistent period) :
    (control.next period).Consistent period := by
  refine ⟨?_, ?_, ?_, ?_, ?_⟩
  · rw [serverUpdateCounter_next]
    exact consistent.serverUpdateCounter
  · have counting := consistent.counting
    have known := consistent.espState
    rw [serverUpdateCounter_next, espState_next]
    cases point : control.point <;> simp_all [Point.espState?]
  · have known := consistent.espState
    cases point : control.point <;> simp only [Control.next, point] <;>
      (try split) <;> simp_all [Point.espState?]
  · have known := consistent.ds18b20State
    cases point : control.point <;> simp only [Control.next, point] <;>
      (try split) <;> simp_all [Point.ds18b20State?]
  · have twoLe := period.twoLe
    have known := consistent.espState
    have fits := consistent.counter
    have step := consistent.incrementCounter
    cases point : control.point <;> simp only [Control.next, point] <;>
      (try split) <;> simp_all [CounterFits, Point.espState?] <;> omega

def step (period : UpdatePeriod) (control : Control) : Action → Control
  | .timerCallback => control.timerCallback period
  | .mainStep _ => control.next period

theorem Consistent.step (consistent : control.Consistent period)
    (action : Action) : (control.step period action).Consistent period := by
  cases action with
  | timerCallback => exact consistent.timerCallback
  | mainStep readings => exact consistent.next

end Control

namespace Station

variable {period : UpdatePeriod} {station : Station}

@[simp] theorem control_step (action : Action) :
    (station.step period action).control =
      station.control.step period action := by
  cases action <;> rfl

theorem consistent_exec (period : UpdatePeriod) {initial : Station}
    (started : initial.Started)
    (actions : List Action) :
    ((machine period).exec initial actions).control.Consistent period := by
  refine (machine period).invariant
    (fun station => station.control.Consistent period) ?_ initial ?_ actions
  · intro station action consistent
    simpa [machine] using consistent.step action
  · rw [started.control]
    exact Control.consistent_initial period

end Station

end QuarkMeteoStation
