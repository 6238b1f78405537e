import QuarkMeteoStation.Library.Procedure
import QuarkMeteoStation.Main.PacedRun

namespace QuarkMeteoStation

open Library Library.Procedure.Phase

/-! The body of the main loop as one step. The timer's interrupt may come
between any two of its statements, and still each run is one of whole cycles
with the interrupts between them. -/

namespace Point

/-- Nothing after the switch on `ESP_state` looks at what the interrupt writes,
until the request flag is cleared. -/
def phase : Point → Procedure.Phase
  | testUpdateState => .between
  | guiUpdate | setUpToDate => .late
  | _ => .early

end Point

namespace Control

/-- What is left of a tick once the end of the cycle has cleared its request: no
step of the code, only a name for what it comes to. -/
def overtaken (period : UpdatePeriod) (control : Control) : Control :=
  { control.timerCallback period with updateState := control.updateState }

variable {period : UpdatePeriod} {control : Control}

theorem Consistent.overtaken (consistent : control.Consistent period) :
    (control.overtaken period).Consistent period := by
  have ticked := consistent.timerCallback
  exact ⟨ticked.serverUpdateCounter, ticked.counting, ticked.espState,
    ticked.ds18b20State, ticked.counter⟩

theorem updateState_next (other : control.point ≠ .setUpToDate) :
    (control.next period).updateState = control.updateState := by
  unfold next
  cases point : control.point with
  | setUpToDate => exact absurd point other
  | _ => simp only <;> split <;> rfl

/-- What a tick does, it does to the variables it shares with the loop, and
from two of them alone. -/
theorem timerCallback_of_same {other : Control}
    (counter : other.serverUpdateCounter = control.serverUpdateCounter)
    (state : other.espState = control.espState) :
    other.timerCallback period =
      { other with
        updateState := .updateRequest
        serverUpdateCounter := (control.timerCallback period).serverUpdateCounter
        espState := (control.timerCallback period).espState } := by
  simp only [timerCallback, state]
  split <;> simp only [counter] <;> split <;> rfl

theorem next_timerCallback_of_idle (consistent : control.Consistent period)
    (idle : control.espState = .idle)
    (requested : control.updateState = .updateRequest)
    (early : (control.next period).point.phase = .early) :
    (control.timerCallback period).next period =
      (control.next period).timerCallback period := by
  have unknown := consistent.idle_point idle
  have same : (control.next period).espState = control.espState := by
    rw [espState_next]
    cases point : control.point <;> simp [point, Point.espState?] at unknown ⊢
  rw [timerCallback_of_same serverUpdateCounter_next same,
    @timerCallback_of_same period control control rfl rfl]
  cases point : control.point with
  | testUpdateState => simp only [next, point, requested, if_true]
  | switchDS18B20State =>
      cases read : control.ds18b20State <;> simp only [next, point, read]
  | switchESPState | guiUpdate | setUpToDate =>
      simp [next, point, idle, Point.phase] at early
  | connectToServer | setAwaitForConnection | incrementCounter | testCounter
  | setSendData | clearCounter | sendMeasurements | averageReset | setIdle =>
      simp [point, Point.espState?] at unknown
  | _ => simp only [next, point]

/-- While the module is connected a tick only repeats the request. -/
theorem timerCallback_of_busy (consistent : control.Consistent period)
    (busy : control.espState ≠ .idle)
    (requested : control.updateState = .updateRequest) :
    control.timerCallback period = control := by
  rcases consistent.timerCallback_cases with
    ⟨idle, -⟩ | ⟨idle, -⟩ | ⟨-, after⟩
  · exact absurd idle busy
  · exact absurd idle busy
  · rw [after, ← requested]

theorem next_timerCallback (consistent : control.Consistent period)
    (requested : control.updateState = .updateRequest)
    (early : (control.next period).point.phase = .early) :
    (control.timerCallback period).next period =
      (control.next period).timerCallback period := by
  by_cases idle : control.espState = .idle
  · exact next_timerCallback_of_idle consistent idle requested early
  · have notLast : control.point ≠ .setUpToDate := by
      intro point
      simp [next, point, Point.phase] at early
    have busy : (control.next period).espState ≠ .idle := by
      rw [espState_next]
      cases point : control.point with
      | setIdle => simp [next, point, Point.phase] at early
      | setAwaitForConnection | setSendData => simp
      | _ => exact idle
    rw [timerCallback_of_busy consistent idle requested,
      timerCallback_of_busy consistent.next busy
        ((updateState_next notLast).trans requested)]

theorem next_overtaken (late : control.point.phase = .late) :
    (control.overtaken period).next period =
      (control.next period).overtaken period := by
  have same : (control.next period).espState = control.espState := by
    rw [espState_next]
    cases point : control.point <;> simp [point, Point.phase] at late ⊢
  rw [overtaken, overtaken,
    timerCallback_of_same serverUpdateCounter_next same,
    @timerCallback_of_same period control control rfl rfl]
  cases point : control.point with
  | guiUpdate | setUpToDate => simp only [next, point]
  | _ => simp [point, Point.phase] at late

end Control

namespace Station

/-- Inside a cycle the request it was begun for stays. -/
structure Cycling (period : UpdatePeriod) (station : Station) : Prop where
  consistent : station.control.Consistent period
  requested : station.control.point ≠ .testUpdateState →
    station.control.updateState = .updateRequest

def procedure (period : UpdatePeriod) : Procedure Station Readings Event where
  body :=
    { start := Started
      step := fun station readings => station.step period (.mainStep readings)
      output := call }
  interrupt := fun station => station.step period .timerCallback
  overtaken := fun station =>
    { station with control := station.control.overtaken period }
  phase := fun station => station.control.point.phase
  Invariant := Cycling period

@[simp] theorem procedure_step (period : UpdatePeriod) (station : Station)
    (readings : Readings) :
    (procedure period).body.step station readings =
      station.step period (.mainStep readings) := rfl

@[simp] theorem procedure_output (period : UpdatePeriod) (station : Station)
    (readings : Readings) :
    (procedure period).body.output station readings =
      station.call readings := rfl

variable {period : UpdatePeriod} {station : Station}

theorem Cycling.mainStep (cycling : station.Cycling period)
    (readings : Readings) :
    (station.step period (.mainStep readings)).Cycling period where
  consistent := cycling.consistent.next
  requested := by
    intro inside
    simp only [step] at inside ⊢
    cases point : station.control.point with
    | setUpToDate => simp [Control.next, point] at inside
    | testUpdateState =>
        by_cases asked : station.control.updateState = .updateRequest
        · rw [Control.updateState_next (by simp [point])]
          exact asked
        · simp [Control.next, point, asked] at inside
    | _ =>
        rw [Control.updateState_next (by simp [point])]
        exact cycling.requested (by simp [point])

theorem Cycling.timerCallback (cycling : station.Cycling period) :
    (station.step period .timerCallback).Cycling period where
  consistent := cycling.consistent.timerCallback
  requested := fun _ => Control.updateState_timerCallback

theorem Cycling.overtaken (cycling : station.Cycling period) :
    ({ station with
      control := station.control.overtaken period } : Station).Cycling
        period where
  consistent := cycling.consistent.overtaken
  requested := by
    intro inside
    apply cycling.requested
    simpa [Control.overtaken] using inside

theorem phase_eq_between {point : Point} (between : point.phase = .between) :
    point = .testUpdateState := by
  cases point <;> simp [Point.phase] at between ⊢

theorem requested_of_early (cycling : station.Cycling period)
    (early : (station.control.next period).point.phase = .early) :
    station.control.updateState = .updateRequest := by
  by_cases point : station.control.point = .testUpdateState
  · by_contra idle
    simp [Control.next, point, idle, Point.phase] at early
  · exact cycling.requested point

/-- A call reads the position, the request and the data. -/
theorem call_of_same {control : Control}
    (point : control.point = station.control.point)
    (updateState : control.updateState = station.control.updateState)
    (readings : Readings) :
    ({ station with control := control } : Station).call readings =
      station.call readings := by
  simp only [call, point, updateState]

theorem procedure_lawful (period : UpdatePeriod) :
    (procedure period).Lawful where
  body := fun cycling readings => cycling.mainStep readings
  interrupt := fun cycling =>
    ⟨cycling.timerCallback, congrArg Point.phase Control.point_timerCallback⟩
  overtaken := fun cycling =>
    ⟨cycling.overtaken, congrArg Point.phase Control.point_timerCallback⟩
  waits := by
    intro station cycling between readings
    have point := phase_eq_between between
    by_cases requested : station.control.updateState = .updateRequest
    · left
      simp [procedure, step, Control.next, point, requested, Point.phase]
    · right
      simp [procedure, step, call, Control.next, Data.execute, point,
        requested]
  proceeds := by
    intro station cycling early readings between
    have next := phase_eq_between between
    have follows := Control.next_mem_successors period station.control
    simp only [procedure, step] at early next
    rw [next] at follows
    cases point : station.control.point <;>
      simp [point, Point.phase, Point.successors] at early follows
  commits := by
    intro station cycling late readings early
    have follows := Control.next_mem_successors period station.control
    simp only [procedure, step] at late early
    cases point : station.control.point <;>
      simp [point, Point.phase, Point.successors] at late follows <;>
      simp [follows, Point.phase] at early
  commutes := by
    intro station cycling readings early
    have requested := requested_of_early cycling early
    have ticked : (station.control.timerCallback period).updateState =
        station.control.updateState := by
      rw [Control.updateState_timerCallback, requested]
    refine ⟨?_, call_of_same Control.point_timerCallback ticked readings⟩
    simp only [procedure, step, Control.point_timerCallback,
      Control.next_timerCallback cycling.consistent requested early]
  overtakes := by
    intro station cycling late
    have requested := cycling.requested (by
      intro point
      simp [procedure, point, Point.phase] at late)
    simp only [procedure, step, Control.overtaken, requested]
    rw [← @Control.updateState_timerCallback period station.control]
  postpones := by
    intro station cycling late readings
    have point : (station.control.overtaken period).point =
        station.control.point := Control.point_timerCallback
    refine ⟨?_, call_of_same point rfl readings⟩
    simp only [procedure, step, point, Control.next_overtaken late]

/-! The body of the loop, statement group by statement group. -/

def readDS18B20 (ds18b20Meas : DS18B20Meas) (station : Station) :
    Station × List Event :=
  match station.control.ds18b20State with
  | .requestConversion =>
      ({ station with control.ds18b20State := .getMeasurement },
        [.requestConversion])
  | .getMeasurement =>
      ({ control := { station.control with ds18b20State := .requestConversion }
         data :=
          { station.data with
            ds18b20Meas := ds18b20Meas
            averages :=
              averageUpdateDS18B20 ds18b20Meas station.data.averages } },
        [.getTemperature ds18b20Meas, .averageUpdateDS18B20 ds18b20Meas])

def readBMP280 (bmp280Meas : BMP280Meas) (station : Station) :
    Station × List Event :=
  ({ station with
     data.bmp280Meas := bmp280Meas
     data.averages := averageUpdateBMP280 bmp280Meas station.data.averages },
    [.getBMP280 bmp280Meas, .averageUpdateBMP280 bmp280Meas])

def readDHT11 (dht11Meas : DHT11Meas) (station : Station) :
    Station × List Event :=
  ({ station with
     data.dht11Meas := dht11Meas
     data.averages := averageUpdateDHT11 dht11Meas station.data.averages },
    [.getDHT11 dht11Meas, .averageUpdateDHT11 dht11Meas])

def transmit (period : UpdatePeriod) (station : Station) :
    Station × List Event :=
  let data := station.data
  match station.control.espState with
  | .idle => (station, [])
  | .connectToServer =>
      ({ control := { station.control with espState := .awaitForConnection }
         data :=
          { data with buffers := (ESP.connectToServer data.buffers).1 } },
        [.connectToServer (ESP.connectToServer data.buffers).2])
  | .awaitForConnection =>
      let counter := station.control.counter + 1
      if period.espConnectionTime - 1 ≤ counter.toNat then
        ({ station with
           control.espState := .sendData
           control.counter := 0 }, [])
      else ({ station with control.counter := counter }, [])
  | .sendData =>
      let sent := ESP.sendMeasurements data.averages.published data.buffers
      ({ control := { station.control with espState := .idle }
         data :=
          { data with
            buffers := sent.1
            averages := averageReset data.averages } },
        [.sendMeasurements sent.2, .averageReset])

def refresh (station : Station) : Station × List Event :=
  let data := station.data
  ({ station with control.updateState := .upToDate },
    [.guiUpdate data.bmp280Meas data.ds18b20Meas data.dht11Meas, .cycleEnd])

/-- The body of the loop when an update was requested. -/
def cycle (period : UpdatePeriod) (readings : Readings) (station : Station) :
    Station × List Event :=
  let (station, outdoor) := station.readDS18B20 readings.ds18b20
  let (station, indoor) := station.readBMP280 readings.bmp280
  let (station, humidity) := station.readDHT11 readings.dht11
  let (station, upload) := station.transmit period
  let (station, drawn) := station.refresh
  (station, .cycleStart :: outdoor ++ indoor ++ humidity ++ upload ++ drawn)

/-- The station at another statement. -/
def goto (point : Point) (station : Station) : Station :=
  { station with control.point := point }

/-- Steps that run through a group of statements before they go on. -/
structure Leads (period : UpdatePeriod) (station : Station)
    (steps : List Readings) (after : Station) (rest : List Readings)
    (events : List Event) : Prop where
  finishes : (procedure period).Finishes after rest
  exec : (procedure period).body.exec station steps =
    (procedure period).body.exec after rest
  trace : (procedure period).body.trace station steps =
    events ++ (procedure period).body.trace after rest

theorem leads_readDS18B20 {steps : List Readings}
    (finishes : (procedure period).Finishes station steps)
    (start : station.control.point = .testUpdateState)
    (requested : station.control.updateState = .updateRequest) :
    ∃ ds18b20Meas rest,
      Leads period station steps
        ((station.readDS18B20 ds18b20Meas).1.goto .getBMP280) rest
        (.cycleStart :: (station.readDS18B20 ds18b20Meas).2) := by
  obtain ⟨⟨point, updateState, espState, serverUpdateCounter, ds18b20State,
    counter⟩, data⟩ := station
  simp only at start requested
  subst start requested
  obtain ⟨_, _, rfl, begun⟩ := finishes.next (fun _ => early_ne_between)
  cases ds18b20State with
  | requestConversion =>
      obtain ⟨_, _, rfl, chosen⟩ := begun.next (fun _ => early_ne_between)
      obtain ⟨_, _, rfl, asked⟩ := chosen.next (fun _ => early_ne_between)
      obtain ⟨_, rest, rfl, noted⟩ := asked.next (fun _ => early_ne_between)
      exact ⟨data.ds18b20Meas, rest, noted, rfl, rfl⟩
  | getMeasurement =>
      obtain ⟨_, _, rfl, chosen⟩ := begun.next (fun _ => early_ne_between)
      obtain ⟨readings, _, rfl, read⟩ := chosen.next (fun _ => early_ne_between)
      obtain ⟨_, _, rfl, counted⟩ := read.next (fun _ => early_ne_between)
      obtain ⟨_, rest, rfl, noted⟩ := counted.next (fun _ => early_ne_between)
      exact ⟨readings.ds18b20, rest, noted, rfl, rfl⟩

theorem leads_readBMP280 {steps : List Readings}
    (finishes : (procedure period).Finishes (station.goto .getBMP280) steps) :
    ∃ bmp280Meas rest, Leads period (station.goto .getBMP280) steps
      ((station.readBMP280 bmp280Meas).1.goto .getDHT11) rest
      (station.readBMP280 bmp280Meas).2 := by
  obtain ⟨readings, _, rfl, read⟩ := finishes.next (fun _ => early_ne_between)
  obtain ⟨_, rest, rfl, counted⟩ := read.next (fun _ => early_ne_between)
  exact ⟨readings.bmp280, rest, counted, rfl, rfl⟩

theorem leads_readDHT11 {steps : List Readings}
    (finishes : (procedure period).Finishes (station.goto .getDHT11) steps) :
    ∃ dht11Meas rest, Leads period (station.goto .getDHT11) steps
      ((station.readDHT11 dht11Meas).1.goto .switchESPState) rest
      (station.readDHT11 dht11Meas).2 := by
  obtain ⟨readings, _, rfl, read⟩ := finishes.next (fun _ => early_ne_between)
  obtain ⟨_, rest, rfl, counted⟩ := read.next (fun _ => early_ne_between)
  exact ⟨readings.dht11, rest, counted, rfl, rfl⟩

theorem leads_transmit {steps : List Readings}
    (finishes : (procedure period).Finishes (station.goto .switchESPState)
      steps) :
    ∃ rest, Leads period (station.goto .switchESPState) steps
      ((station.transmit period).1.goto .guiUpdate) rest
      (station.transmit period).2 := by
  obtain ⟨⟨point, updateState, espState, serverUpdateCounter, ds18b20State,
    counter⟩, data⟩ := station
  cases espState with
  | idle =>
      obtain ⟨_, rest, rfl, chosen⟩ := finishes.next (fun _ => late_ne_between)
      exact ⟨rest, chosen, rfl, rfl⟩
  | connectToServer =>
      obtain ⟨_, _, rfl, chosen⟩ := finishes.next (fun _ => early_ne_between)
      obtain ⟨_, _, rfl, connected⟩ := chosen.next (fun _ => early_ne_between)
      obtain ⟨_, rest, rfl, noted⟩ := connected.next (fun _ => late_ne_between)
      exact ⟨rest, noted, rfl, rfl⟩
  | awaitForConnection =>
      obtain ⟨_, _, rfl, chosen⟩ := finishes.next (fun _ => early_ne_between)
      obtain ⟨_, _, rfl, counted⟩ := chosen.next (fun _ => early_ne_between)
      by_cases waited : period.espConnectionTime - 1 ≤ (counter + 1).toNat
      · obtain ⟨_, _, rfl, tested⟩ := counted.next (fun _ => by
          simp only [procedure_step, step, Control.next, goto, if_pos waited]
          exact early_ne_between)
        simp only [procedure_step, step, Control.next, Data.execute, goto,
          if_pos waited] at tested
        obtain ⟨_, _, rfl, noted⟩ := tested.next (fun _ => early_ne_between)
        obtain ⟨_, rest, rfl, cleared⟩ := noted.next (fun _ => late_ne_between)
        refine ⟨rest, ?_, ?_, ?_⟩
        · simp only [transmit, goto, if_pos waited]
          exact cleared
        · simp only [Machine.exec_cons, procedure_step, step, Control.next,
            Data.execute, goto, transmit, if_pos waited]
        · simp only [Machine.trace_cons, procedure_step, procedure_output,
            step, call, Control.next, Data.execute, goto, transmit,
            if_pos waited, Option.toList_none, List.nil_append]
      · obtain ⟨_, rest, rfl, tested⟩ := counted.next (fun _ => by
          simp only [procedure_step, step, Control.next, goto, if_neg waited]
          exact late_ne_between)
        simp only [procedure_step, step, Control.next, Data.execute, goto,
          if_neg waited] at tested
        refine ⟨rest, ?_, ?_, ?_⟩
        · simpa only [transmit, goto, if_neg waited] using tested
        · simp only [Machine.exec_cons, procedure_step, step, Control.next,
            Data.execute, goto, transmit, if_neg waited]
        · simp only [Machine.trace_cons, procedure_step, procedure_output,
            step, call, Control.next, Data.execute, goto, transmit,
            if_neg waited, Option.toList_none, List.nil_append]
  | sendData =>
      obtain ⟨_, _, rfl, chosen⟩ := finishes.next (fun _ => early_ne_between)
      obtain ⟨_, _, rfl, sent⟩ := chosen.next (fun _ => early_ne_between)
      obtain ⟨_, _, rfl, reset⟩ := sent.next (fun _ => early_ne_between)
      obtain ⟨_, rest, rfl, noted⟩ := reset.next (fun _ => late_ne_between)
      refine ⟨rest, ?_, ?_, ?_⟩
      · simpa only [procedure_step, step, Control.next, Data.execute, goto,
          transmit] using noted
      · simp only [Machine.exec_cons, procedure_step, step, Control.next,
          Data.execute, goto, transmit]
      · simp only [Machine.trace_cons, procedure_step, procedure_output, step,
          call, Control.next, Data.execute, goto, transmit, Option.toList_none,
          Option.toList_some, List.nil_append, List.cons_append]

theorem leads_refresh {steps : List Readings}
    (finishes : (procedure period).Finishes (station.goto .guiUpdate) steps) :
    (procedure period).body.exec (station.goto .guiUpdate) steps =
        station.refresh.1.goto .testUpdateState ∧
      (procedure period).body.trace (station.goto .guiUpdate) steps =
        station.refresh.2 := by
  obtain ⟨_, _, rfl, drawn⟩ := finishes.next (fun _ => late_ne_between)
  obtain ⟨_, rfl⟩ := drawn.last (fun _ => rfl)
  exact ⟨rfl, rfl⟩

theorem point_readDS18B20 (ds18b20Meas : DS18B20Meas) (station : Station) :
    (station.readDS18B20 ds18b20Meas).1.control.point =
      station.control.point := by
  unfold readDS18B20
  split <;> rfl

theorem point_transmit (period : UpdatePeriod) (station : Station) :
    (station.transmit period).1.control.point = station.control.point := by
  unfold transmit
  split
  · rfl
  · rfl
  · dsimp only
    split <;> rfl
  · rfl

theorem point_cycle (period : UpdatePeriod) (readings : Readings)
    (station : Station) :
    (station.cycle period readings).1.control.point =
      station.control.point :=
  (point_transmit period _).trans (point_readDS18B20 readings.ds18b20 station)

/-- Steps from one end of the loop's body to the other do what it does at once,
on some readings. -/
theorem cycle_of_finishes {steps : List Readings}
    (finishes : (procedure period).Finishes station steps)
    (start : station.control.point = .testUpdateState)
    (requested : station.control.updateState = .updateRequest) :
    ∃ readings, (procedure period).body.exec station steps =
        (station.cycle period readings).1 ∧
      (procedure period).body.trace station steps =
        (station.cycle period readings).2 := by
  obtain ⟨ds18b20Meas, afterFirst, first⟩ :=
    leads_readDS18B20 finishes start requested
  obtain ⟨bmp280Meas, afterSecond, second⟩ := leads_readBMP280 first.finishes
  obtain ⟨dht11Meas, afterThird, third⟩ := leads_readDHT11 second.finishes
  obtain ⟨afterFourth, fourth⟩ := leads_transmit third.finishes
  obtain ⟨reached, drawn⟩ := leads_refresh fourth.finishes
  let readings : Readings := ⟨bmp280Meas, ds18b20Meas, dht11Meas⟩
  have stays : (station.cycle period readings).1.goto .testUpdateState =
      (station.cycle period readings).1 := by
    rw [goto, ← start, ← point_cycle period readings station]
  refine ⟨readings, ?_, ?_⟩
  · rw [first.exec, second.exec, third.exec, fourth.exec, reached, ← stays]
    rfl
  · rw [first.trace, second.trace, third.trace, fourth.trace, drawn]
    simp only [cycle, List.cons_append, List.append_assoc]
    rfl

/-- A cycle that has begun comes to its end. -/
theorem exists_finishes (period : UpdatePeriod) (readings : Readings)
    (station : Station) (inside : station.control.point ≠ .testUpdateState) :
    ∃ steps, (procedure period).Finishes station steps := by
  generalize most : station.control.remaining = remaining
  replace most : station.control.remaining ≤ remaining := Nat.le_of_eq most
  induction remaining generalizing station with
  | zero =>
      have none := Nat.le_zero.mp most
      exact absurd (Control.ended_of_remaining none).1 inside
  | succ remaining induction =>
      have nearer := Control.remaining_next_le period station.control
      by_cases last : (station.control.next period).point = .testUpdateState
      · exact ⟨[readings], ⟨[], readings, rfl, trivial⟩,
          congrArg Point.phase last⟩
      · obtain ⟨steps, finishes⟩ :=
          induction (station.step period (.mainStep readings)) last
            (Nat.le_trans nearer (by omega))
        obtain ⟨earlier, taken, split, underway⟩ := finishes.split
        refine ⟨readings :: steps,
          ⟨readings :: earlier, taken, by rw [split]; rfl, ?_, underway⟩,
          finishes.finished⟩
        intro between
        exact last (phase_eq_between between)

/-- What happens to the station between its cycles, or one of these. -/
inductive Occasion
  | tick
  | cycle (readings : Readings)
  deriving DecidableEq, Repr

namespace Occasion

def isTick : Occasion → Bool
  | tick => true
  | cycle _ => false

end Occasion

/-- The station as it would run if nothing interrupted its cycles. -/
def uninterrupted (period : UpdatePeriod) :
    Machine Station Occasion (List Event) where
  start := Started
  step := fun station occasion =>
    match occasion with
    | .tick => station.step period .timerCallback
    | .cycle readings => (station.cycle period readings).1
  output := fun station occasion =>
    match occasion with
    | .tick => none
    | .cycle readings => some (station.cycle period readings).2

/-- A cycle is only begun on request. -/
def OnRequest (station : Station) : Occasion → Prop
  | .tick => True
  | .cycle _ => station.control.updateState = .updateRequest

/-- The same station, but that a request may stand which the other one has
cleared. -/
structure Outstands (other station : Station) : Prop where
  same : ∃ updateState,
    other = { station with control.updateState := updateState }
  requested : station.control.updateState = .updateRequest →
    other.control.updateState = .updateRequest

section Outstands

variable {other : Station}

theorem Outstands.refl (station : Station) : Outstands station station where
  same := ⟨station.control.updateState, rfl⟩
  requested := id

/-- A tick sets the request in any case. -/
theorem Outstands.timerCallback (outstands : Outstands other station) :
    other.step period .timerCallback = station.step period .timerCallback := by
  obtain ⟨⟨updateState, rfl⟩, -⟩ := outstands
  rfl

theorem Outstands.overtaken (outstands : Outstands other station) :
    Outstands (other.step period .timerCallback)
      { station with control := station.control.overtaken period } := by
  rw [outstands.timerCallback]
  refine ⟨⟨.updateRequest, ?_⟩, fun _ => Control.updateState_timerCallback⟩
  simp only [step, Control.overtaken]
  rw [← @Control.updateState_timerCallback period station.control]

/-- A cycle does not look at the request, and clears it at its end. -/
theorem Outstands.cycle (outstands : Outstands other station)
    (readings : Readings) :
    other.cycle period readings = station.cycle period readings := by
  obtain ⟨⟨updateState, rfl⟩, -⟩ := outstands
  obtain ⟨⟨point, _, espState, serverUpdateCounter, ds18b20State, counter⟩,
    data⟩ := station
  cases espState with
  | awaitForConnection =>
      by_cases waited : period.espConnectionTime - 1 ≤ (counter + 1).toNat <;>
        cases ds18b20State <;>
        simp only [Station.cycle, readDS18B20, readBMP280, readDHT11, transmit,
          refresh, waited, if_true, if_false]
  | _ => cases ds18b20State <;> rfl

end Outstands

def move : Action → Procedure.Move Readings
  | .timerCallback => .interrupt
  | .mainStep readings => .step readings

theorem interleaved_run (period : UpdatePeriod) (station : Station)
    (actions : List Action) :
    (procedure period).interleaved.exec station (actions.map move) =
        (machine period).exec station actions ∧
      (procedure period).interleaved.trace station (actions.map move) =
        ((machine period).trace station actions).filter (!·.isTick) ∧
      (actions.map move).countP Procedure.Move.isInterrupt =
        ((machine period).trace station actions).countP Event.isTick := by
  induction actions generalizing station with
  | nil => exact ⟨rfl, rfl, rfl⟩
  | cons action actions induction =>
      obtain ⟨state, calls, ticks⟩ :=
        induction ((machine period).step station action)
      cases action with
      | timerCallback =>
          refine ⟨state, calls, ?_⟩
          rw [List.map_cons, List.countP_cons, ticks, Machine.trace_cons,
            Nat.add_comm, List.countP_append]
          rfl
      | mainStep readings =>
          have plain := @isTick_call station readings
          have kept : (station.call readings).toList.filter (!·.isTick) =
              (station.call readings).toList := by
            rw [List.filter_eq_self]
            intro event called
            rw [plain event (Option.mem_toList.mp called)]
            rfl
          have none : (station.call readings).toList.countP Event.isTick =
              0 := by
            rw [List.countP_eq_zero]
            intro event called
            rw [plain event (Option.mem_toList.mp called)]
            exact Bool.false_ne_true
          refine ⟨state, ?_, ?_⟩
          · rw [List.map_cons, Machine.trace_cons, Machine.trace_cons,
              List.filter_append, ← calls]
            exact congrArg (· ++ _) kept.symm
          · rw [List.map_cons, List.countP_cons, ticks, Machine.trace_cons,
              List.countP_append]
            change _ + 0 = (station.call readings).toList.countP _ + _
            rw [none, Nat.add_zero, Nat.zero_add]

/-- Only a requested cycle takes more than the one step that tests for it. -/
theorem requested_of_several {steps : List Readings}
    (start : station.control.point = .testUpdateState)
    (several : 1 < steps.length)
    (finishes : (procedure period).Finishes station steps) :
    station.control.updateState = .updateRequest := by
  by_contra idle
  obtain ⟨readings, rfl⟩ := finishes.last fun readings => by
    simp only [procedure_step, step, Control.next, start, if_neg idle]
    exact congrArg Point.phase start
  exact absurd several (Nat.lt_irrefl 1)

/-- Whole runs of the procedure are cycles. -/
theorem exists_occasions (cycling : station.Cycling period)
    (between : station.control.point.phase = .between) {other : Station}
    (outstands : Outstands other station)
    {rounds : List (Procedure.Round Readings)}
    (proper : (procedure period).atomic.Along (procedure period).Proper station
      rounds) :
    ∃ occasions, (uninterrupted period).Along OnRequest other occasions ∧
      Outstands ((uninterrupted period).exec other occasions)
        ((procedure period).atomic.exec station rounds) ∧
      (procedure period).atomic.trace station rounds =
        (uninterrupted period).trace other occasions ∧
      rounds.countP Procedure.Round.isInterrupt =
        occasions.countP Occasion.isTick := by
  have lawful := procedure_lawful period
  induction rounds generalizing station other with
  | nil => exact ⟨[], trivial, outstands, rfl, rfl⟩
  | cons round rounds induction =>
      obtain ⟨now, later⟩ := proper
      cases round with
      | interrupt =>
          obtain ⟨kept, still⟩ := lawful.interrupt cycling
          have ticked : Outstands (other.step period .timerCallback)
              ((procedure period).interrupt station) := by
            rw [outstands.timerCallback]
            exact .refl _
          obtain ⟨occasions, onRequest, state, calls, ticks⟩ :=
            induction kept (still.trans between) ticked later
          refine ⟨.tick :: occasions, ⟨trivial, onRequest⟩, state, calls, ?_⟩
          rw [List.countP_cons, List.countP_cons, ticks]
          rfl
      | overtaken =>
          obtain ⟨kept, still⟩ := lawful.overtaken cycling
          obtain ⟨occasions, onRequest, state, calls, ticks⟩ :=
            induction kept (still.trans between) outstands.overtaken later
          refine ⟨.tick :: occasions, ⟨trivial, onRequest⟩, state, calls, ?_⟩
          rw [List.countP_cons, List.countP_cons, ticks]
          rfl
      | whole steps =>
          obtain ⟨-, several, finishes⟩ := now
          have start := phase_eq_between between
          have requested := requested_of_several start several finishes
          obtain ⟨readings, reached, called⟩ :=
            cycle_of_finishes finishes start requested
          have cycled : Outstands (other.cycle period readings).1
              ((procedure period).body.exec station steps) := by
            rw [outstands.cycle, reached]
            exact .refl _
          obtain ⟨occasions, onRequest, state, calls, ticks⟩ :=
            induction (lawful.exec_invariant cycling steps) finishes.finished
              cycled later
          refine ⟨.cycle readings :: occasions,
            ⟨outstands.requested requested, onRequest⟩, state, ?_, ticks⟩
          rw [Machine.trace_cons, Machine.trace_cons]
          change [(procedure period).body.trace station steps] ++
            (procedure period).atomic.trace
              ((procedure period).body.exec station steps) rounds = _
          rw [called, calls, ← outstands.cycle]
          rfl

/-- A run as ticks and cycles one after another, and what it has called in a
cycle that is still running. Between two cycles the stations agree, but that
the run in one piece keeps the request of a tick that the other cleared. -/
structure Serial (period : UpdatePeriod) (initial : Station)
    (actions : List Action) (occasions : List Occasion)
    (underway : List Event) : Prop where
  onRequest : (uninterrupted period).Along OnRequest initial occasions
  calls : ((machine period).trace initial actions).filter (!·.isTick) =
    ((uninterrupted period).trace initial occasions).flatten ++ underway
  cycle : ∃ readings, underway <+:
    (((uninterrupted period).exec initial occasions).cycle period readings).2
  settled : ((machine period).exec initial actions).control.point =
      .testUpdateState →
    underway = [] ∧
      Outstands ((uninterrupted period).exec initial occasions)
        ((machine period).exec initial actions) ∧
      ((machine period).trace initial actions).countP Event.isTick =
        occasions.countP Occasion.isTick

/-- What a cycle has called so far is the beginning of what it calls. -/
theorem calls_of_underway (start : station.control.point = .testUpdateState)
    {steps : List Readings}
    (underway : (procedure period).Underway station steps) :
    ∃ readings, (procedure period).body.trace station steps <+:
      (station.cycle period readings).2 := by
  let data := station.data
  let held : Readings := ⟨data.bmp280Meas, data.ds18b20Meas, data.dht11Meas⟩
  cases steps with
  | nil => exact ⟨held, List.nil_prefix⟩
  | cons first rest =>
      have inside : ((procedure period).body.exec station
          (first :: rest)).control.point ≠ .testUpdateState := by
        intro point
        exact Procedure.Lawful.phase_of_underway underway (by simp)
          (congrArg Point.phase point)
      obtain ⟨more, ending⟩ := exists_finishes period held _ inside
      have whole := Procedure.Finishes.append underway ending
      have several : 1 < (first :: rest ++ more).length := by
        obtain ⟨earlier, last, rfl, -⟩ := ending.split
        simp only [List.cons_append, List.length_cons, List.length_append,
          List.length_nil]
        omega
      obtain ⟨readings, -, called⟩ := cycle_of_finishes whole start
        (requested_of_several start several whole)
      rw [Machine.trace_append] at called
      exact ⟨readings, _, called⟩

/-- The interrupt may come anywhere, and still every run calls what some run
does whose cycles nothing interrupts. -/
theorem exists_serial {initial : Station} (started : initial.Started)
    (actions : List Action) :
    ∃ occasions underway, Serial period initial actions occasions underway := by
  have lawful := procedure_lawful period
  have cycling : initial.Cycling period := by
    refine ⟨?_, ?_⟩
    · rw [started.control]
      exact Control.consistent_initial period
    · rw [started.control]
      exact fun _ => rfl
  have between : initial.control.point.phase = .between := by
    rw [started.control]
    rfl
  obtain ⟨rounds, steps, count, reduced⟩ :=
    lawful.reduce ⟨cycling, between⟩ (actions.map move)
  obtain ⟨occasions, onRequest, state, calls, ticks⟩ :=
    exists_occasions cycling between (.refl initial) reduced.proper
  obtain ⟨run, history, ticked⟩ := interleaved_run period initial actions
  refine ⟨occasions, (procedure period).body.trace
    ((procedure period).atomic.exec initial rounds) steps, onRequest, ?_, ?_,
    ?_⟩
  · rw [← history, reduced.outputs, calls]
  · have entered := lawful.atomic_exec ⟨cycling, between⟩ reduced.proper
    obtain ⟨readings, begins⟩ :=
      calls_of_underway (phase_eq_between entered.2) reduced.underway
    refine ⟨readings, ?_⟩
    rw [state.cycle]
    exact begins
  · intro settled
    have resting : (procedure period).phase ((procedure period).interleaved.exec
        initial (actions.map move)) = .between := by
      rw [run]
      exact congrArg Point.phase settled
    have done := lawful.underway_eq_nil ⟨cycling, between⟩ reduced resting
    have none := Procedure.Lawful.pending_eq_zero reduced (by
      rw [resting]
      exact between_ne_late)
    have after := reduced.state
    have counted := reduced.interrupts
    subst done none
    rw [run] at after
    rw [ticked, ticks] at counted
    exact ⟨rfl, by rw [after]; exact state, counted⟩

/-- A tick between the switch on `ESP_state` and the end of the cycle. -/
theorem exists_serial_unseen :
    let readings : Readings := ⟨⟨100000, 2150⟩, ⟨.positive, 3, 50⟩, ⟨40, 21⟩⟩
    ∃ occasions underway, Serial .configured zeroed
      (List.replicate 9 (.mainStep readings) ++ [.timerCallback] ++
        List.replicate 4 (.mainStep readings)) occasions underway :=
  exists_serial zeroed_started _

end Station

end QuarkMeteoStation
