import QuarkMeteoStation.Main.Cycles

namespace QuarkMeteoStation

open Library

/-! The order of the cycles: what each of them reads, when it connects or sends,
and what it draws. -/

inductive Upload
  | none
  | connect (message : List UInt8)
  | send (messages : List (List UInt8))
  deriving DecidableEq, Repr

/-- What one cycle calls. -/
structure Cycle where
  /-- The outdoor reading, where no new conversion is requested instead. -/
  outdoor : Option DS18B20Meas
  bmp280Meas : BMP280Meas
  dht11Meas : DHT11Meas
  upload : Upload
  /-- The outdoor reading that is drawn. -/
  drawn : DS18B20Meas
  deriving DecidableEq, Repr

def Upload.events : Upload → List Event
  | none => []
  | connect message => [.connectToServer message]
  | send messages => [.sendMeasurements messages, .averageReset]

namespace Cycle

def outdoorEvents : Option DS18B20Meas → List Event
  | none => [.requestConversion]
  | some ds18b20Meas =>
      [.getTemperature ds18b20Meas, .averageUpdateDS18B20 ds18b20Meas]

def events (cycle : Cycle) : List Event :=
  .cycleStart :: outdoorEvents cycle.outdoor ++
    [.getBMP280 cycle.bmp280Meas, .averageUpdateBMP280 cycle.bmp280Meas] ++
    [.getDHT11 cycle.dht11Meas, .averageUpdateDHT11 cycle.dht11Meas] ++
    cycle.upload.events ++
    [.guiUpdate cycle.bmp280Meas cycle.drawn cycle.dht11Meas, .cycleEnd]

def quiet (cycle : Cycle) : Bool :=
  cycle.upload = .none

def connects (cycle : Cycle) : Bool :=
  match cycle.upload with
  | .connect _ => true
  | _ => false

def sends (cycle : Cycle) : Bool :=
  match cycle.upload with
  | .send _ => true
  | _ => false

end Cycle

/-- Cycles in which the module is idle, one that connects it, and a number of
cycles in which it is given time. -/
structure Awaited (waited : Nat) (cycles : List Cycle) : Prop where
  split : ∃ idle connecting waiting,
    cycles = idle ++ connecting :: waiting ∧
      (∀ cycle ∈ idle, cycle.quiet) ∧ connecting.connects ∧
      waiting.length = waited ∧ ∀ cycle ∈ waiting, cycle.quiet

theorem Awaited.next {waited : Nat} {cycles : List Cycle}
    (awaited : Awaited waited cycles) {cycle : Cycle} (quiet : cycle.quiet) :
    Awaited (waited + 1) (cycles ++ [cycle]) := by
  obtain ⟨idle, connecting, waiting, rfl, still, connects, rfl, silent⟩ :=
    awaited.split
  refine ⟨idle, connecting, waiting ++ [cycle], by simp, still, connects,
    by simp, ?_⟩
  rw [List.forall_mem_append]
  exact ⟨silent, by simpa using quiet⟩

/-- The order of the cycles, whenever they ran: outdoor conversions are requested
and read in turn, the latest reading of each kind is drawn, and an upload comes
a fixed number of cycles after its connection. -/
structure Rhythm (period : UpdatePeriod) (cycles : List Cycle) : Prop where
  outdoor : ∀ earlier cycle later, cycles = earlier ++ cycle :: later →
    (cycle.outdoor = none ↔ earlier.length % 2 = 0)
  drawn : ∀ earlier cycle later, cycles = earlier ++ cycle :: later →
    earlier ≠ [] →
      ((earlier ++ [cycle]).filterMap Cycle.outdoor).getLast? =
        some cycle.drawn
  uploads : ∀ stretch ∈ closedStretches Cycle.sends cycles,
    Awaited (period.espConnectionTime - 1) stretch
  underway : (∀ cycle ∈ sinceLast Cycle.sends cycles, cycle.quiet) ∨
    ∃ waited < period.espConnectionTime,
      Awaited waited (sinceLast Cycle.sends cycles)

section Concat

variable {period : UpdatePeriod} {cycles : List Cycle} {cycle : Cycle}

theorem rhythm_nil (period : UpdatePeriod) : Rhythm period [] where
  outdoor := by simp
  drawn := by simp
  uploads := by simp
  underway := by simp

private theorem forall_split_concat {Holds : List Cycle → Cycle → Prop}
    {last : Cycle}
    (before : ∀ earlier cycle later, cycles = earlier ++ cycle :: later →
      Holds earlier cycle)
    (now : Holds cycles last) :
    ∀ earlier cycle later, cycles ++ [last] = earlier ++ cycle :: later →
      Holds earlier cycle := by
  intro earlier cycle later split
  rcases List.eq_nil_or_concat later with rfl | ⟨rest, final, rfl⟩
  · obtain ⟨rfl, same⟩ := List.append_inj' split rfl
    cases same
    exact now
  · rw [List.concat_eq_append, ← List.cons_append, ← List.append_assoc] at split
    obtain ⟨shorter, -⟩ := List.append_inj' split rfl
    exact before earlier cycle rest shorter

theorem Rhythm.concat (rhythm : Rhythm period cycles)
    (outdoor : cycle.outdoor = none ↔ cycles.length % 2 = 0)
    (drawn : cycles ≠ [] →
      ((cycles ++ [cycle]).filterMap Cycle.outdoor).getLast? =
        some cycle.drawn)
    (upload : cycle.sends = true → Awaited (period.espConnectionTime - 1)
      (sinceLast Cycle.sends cycles))
    (other : cycle.sends = false →
      (∀ each ∈ sinceLast Cycle.sends cycles ++ [cycle], each.quiet) ∨
        ∃ waited < period.espConnectionTime,
          Awaited waited (sinceLast Cycle.sends cycles ++ [cycle])) :
    Rhythm period (cycles ++ [cycle]) where
  outdoor := forall_split_concat rhythm.outdoor outdoor
  drawn := forall_split_concat rhythm.drawn drawn
  uploads := by
    intro stretch
    rw [closedStretches_concat]
    cases sends : cycle.sends with
    | false =>
        rw [if_neg Bool.false_ne_true]
        exact rhythm.uploads stretch
    | true =>
        rw [if_pos rfl]
        intro member
        rcases List.mem_append.mp member with earlier | last
        · exact rhythm.uploads stretch earlier
        · rw [List.mem_singleton.mp last]
          exact upload sends
  underway := by
    rw [sinceLast_concat]
    cases sends : cycle.sends with
    | false =>
        rw [if_neg Bool.false_ne_true]
        exact other sends
    | true =>
        rw [if_pos rfl]
        exact Or.inl (by simp)

end Concat

namespace DS18B20ReadoutState

def other : DS18B20ReadoutState → DS18B20ReadoutState
  | requestConversion => getMeasurement
  | getMeasurement => requestConversion

end DS18B20ReadoutState

namespace Control

/-- What a cycle makes of the variables of the loop. -/
def cycled (period : UpdatePeriod) (control : Control) : Control :=
  let ended :=
    { control with
      updateState := .upToDate
      ds18b20State := control.ds18b20State.other }
  match control.espState with
  | .idle => ended
  | .connectToServer => { ended with espState := .awaitForConnection }
  | .awaitForConnection =>
      if period.espConnectionTime - 1 ≤ (control.counter + 1).toNat then
        { ended with espState := .sendData, counter := 0 }
      else { ended with counter := control.counter + 1 }
  | .sendData => { ended with espState := .idle }

variable {period : UpdatePeriod} {control : Control}

@[simp] theorem ds18b20State_cycled :
    (control.cycled period).ds18b20State = control.ds18b20State.other := by
  unfold cycled
  cases control.espState with
  | awaitForConnection =>
      dsimp only
      split <;> rfl
  | _ => rfl

theorem counter_of_awaiting (consistent : control.Consistent period)
    (start : control.point = .testUpdateState)
    (awaiting : control.espState = .awaitForConnection) :
    (control.counter + 1).toNat = control.counter.toNat + 1 ∧
      control.counter.toNat + 1 < period.espConnectionTime := by
  have fits := consistent.counter
  have connectionLe := period.connectionLe
  rw [CounterFits, start] at fits
  simp only [awaiting, if_true] at fits
  refine ⟨?_, fits⟩
  rw [UInt8.toNat_add, UInt8.toNat_one]
  omega

theorem counter_of_not_awaiting (consistent : control.Consistent period)
    (start : control.point = .testUpdateState)
    (other : control.espState ≠ .awaitForConnection) :
    control.counter = 0 := by
  have fits := consistent.counter
  rw [CounterFits, start] at fits
  simpa only [if_neg other] using fits

theorem Consistent.cycled (consistent : control.Consistent period)
    (start : control.point = .testUpdateState) :
    (control.cycled period).Consistent period := by
  have counting := consistent.counting
  have twoLe := period.twoLe
  unfold Control.cycled
  cases espState : control.espState with
  | idle =>
      have none := counter_of_not_awaiting consistent start
        (by simp [espState])
      refine ⟨consistent.serverUpdateCounter, fun busy => absurd rfl busy,
        ?_, ?_, ?_⟩
      · simp [start, Point.espState?]
      · simp [start, Point.ds18b20State?]
      · simp [CounterFits, start, none]
  | connectToServer =>
      have none := counter_of_not_awaiting consistent start
        (by simp [espState])
      have zero := counting (by simp [espState])
      refine ⟨consistent.serverUpdateCounter, fun _ => zero, ?_, ?_, ?_⟩
      · simp [start, Point.espState?]
      · simp [start, Point.ds18b20State?]
      · simp only [CounterFits, start, none, if_true]
        exact twoLe
  | awaitForConnection =>
      obtain ⟨counted, bound⟩ := counter_of_awaiting consistent start espState
      have zero := counting (by simp [espState])
      dsimp only
      split
      next waited =>
        refine ⟨consistent.serverUpdateCounter, fun _ => zero, ?_, ?_, ?_⟩
        · simp [start, Point.espState?]
        · simp [start, Point.ds18b20State?]
        · simp [CounterFits, start]
      next waits =>
        refine ⟨consistent.serverUpdateCounter, fun _ => zero, ?_, ?_, ?_⟩
        · simp [start, Point.espState?]
        · simp [start, Point.ds18b20State?]
        · simp only [CounterFits, start, if_true, counted]
          omega
  | sendData =>
      have none := counter_of_not_awaiting consistent start
        (by simp [espState])
      refine ⟨consistent.serverUpdateCounter, fun busy => absurd rfl busy,
        ?_, ?_, ?_⟩
      · simp [start, Point.espState?]
      · simp [start, Point.ds18b20State?]
      · simp [CounterFits, start, none]

end Control

namespace Station

/-- What the station calls in its next cycle. -/
def nextCycle (readings : Readings) (station : Station) : Cycle where
  outdoor :=
    match station.control.ds18b20State with
    | .requestConversion => none
    | .getMeasurement => some readings.ds18b20
  bmp280Meas := readings.bmp280
  dht11Meas := readings.dht11
  upload :=
    match station.control.espState with
    | .connectToServer =>
        .connect (ESP.connectToServer station.data.buffers).2
    | .sendData =>
        let station := (station.readDS18B20 readings.ds18b20).1
        let station := (station.readBMP280 readings.bmp280).1
        let station := (station.readDHT11 readings.dht11).1
        .send (ESP.sendMeasurements station.data.averages.published
          station.data.buffers).2
    | _ => .none
  drawn :=
    match station.control.ds18b20State with
    | .requestConversion => station.data.ds18b20Meas
    | .getMeasurement => readings.ds18b20

theorem transmit_awaiting (period : UpdatePeriod) {station : Station}
    (awaiting : station.control.espState = .awaitForConnection) :
    (station.transmit period).2 = [] ∧
      (station.transmit period).1.data = station.data ∧
      (station.transmit period).1.control =
        if period.espConnectionTime - 1 ≤
            (station.control.counter + 1).toNat then
          { station.control with espState := .sendData, counter := 0 }
        else { station.control with
          counter := station.control.counter + 1 } := by
  simp only [transmit, awaiting]
  split <;> exact ⟨rfl, rfl, rfl⟩

theorem events_nextCycle (period : UpdatePeriod) (readings : Readings)
    (station : Station) :
    (station.cycle period readings).2 =
      (station.nextCycle readings).events := by
  obtain ⟨⟨point, updateState, espState, serverUpdateCounter, ds18b20State,
    counter⟩, data⟩ := station
  cases espState with
  | awaitForConnection =>
      cases ds18b20State with
      | requestConversion =>
          simp only [cycle, refresh, readDS18B20, readBMP280, readDHT11]
          rw [(transmit_awaiting period rfl).1,
            (transmit_awaiting period rfl).2.1]
          rfl
      | getMeasurement =>
          simp only [cycle, refresh, readDS18B20, readBMP280, readDHT11]
          rw [(transmit_awaiting period rfl).1,
            (transmit_awaiting period rfl).2.1]
          rfl
  | _ => cases ds18b20State <;> rfl

theorem state_cycle (period : UpdatePeriod) (readings : Readings)
    (station : Station) :
    (station.cycle period readings).1.control =
        station.control.cycled period ∧
      (station.cycle period readings).1.data.ds18b20Meas =
        (station.nextCycle readings).drawn := by
  obtain ⟨⟨point, updateState, espState, serverUpdateCounter, ds18b20State,
    counter⟩, data⟩ := station
  cases espState with
  | awaitForConnection =>
      cases ds18b20State with
      | requestConversion =>
          simp only [cycle, refresh, readDS18B20, readBMP280, readDHT11]
          rw [(transmit_awaiting period rfl).2.1,
            (transmit_awaiting period rfl).2.2]
          refine ⟨?_, rfl⟩
          simp only [Control.cycled]
          split <;> rfl
      | getMeasurement =>
          simp only [cycle, refresh, readDS18B20, readBMP280, readDHT11]
          rw [(transmit_awaiting period rfl).2.1,
            (transmit_awaiting period rfl).2.2]
          refine ⟨?_, rfl⟩
          simp only [Control.cycled]
          split <;> rfl
  | _ => cases ds18b20State <;> exact ⟨rfl, rfl⟩

/-- The uninterrupted station, seen as the cycles it goes through. -/
def cycles (period : UpdatePeriod) : Machine Station Occasion Cycle where
  start := Started
  step := (uninterrupted period).step
  output := fun station occasion =>
    match occasion with
    | .tick => none
    | .cycle readings => some (station.nextCycle readings)

theorem exec_cycles (period : UpdatePeriod) (station : Station)
    (occasions : List Occasion) :
    (cycles period).exec station occasions =
        (uninterrupted period).exec station occasions ∧
      ((uninterrupted period).trace station occasions).flatten =
        ((cycles period).trace station occasions).flatMap Cycle.events := by
  induction occasions generalizing station with
  | nil => exact ⟨rfl, rfl⟩
  | cons occasion occasions induction =>
      obtain ⟨state, calls⟩ :=
        induction ((uninterrupted period).step station occasion)
      refine ⟨state, ?_⟩
      rw [Machine.trace_cons, Machine.trace_cons, List.flatten_append,
        List.flatMap_append, calls]
      cases occasion with
      | tick => rfl
      | cycle readings =>
          change (station.cycle period readings).2 ++ [] ++ _ =
            (station.nextCycle readings).events ++ [] ++ _
          rw [events_nextCycle]
          rfl

/-- What `ESP_state` says about the cycles since the last upload. -/
def SinceUpload (period : UpdatePeriod) (control : Control)
    (cycles : List Cycle) : Prop :=
  match control.espState with
  | .idle | .connectToServer => ∀ cycle ∈ cycles, cycle.quiet
  | .awaitForConnection => Awaited control.counter.toNat cycles
  | .sendData => Awaited (period.espConnectionTime - 1) cycles

/-- What the variables of the loop say about the cycles before. -/
structure Kept (period : UpdatePeriod) (cycles : List Cycle)
    (station : Station) : Prop where
  rhythm : Rhythm period cycles
  point : station.control.point = .testUpdateState
  consistent : station.control.Consistent period
  readout : station.control.ds18b20State = .requestConversion ↔
    cycles.length % 2 = 0
  latest : 1 < cycles.length →
    (cycles.filterMap Cycle.outdoor).getLast? = some station.data.ds18b20Meas
  sinceUpload :
    SinceUpload period station.control (sinceLast Cycle.sends cycles)

variable {period : UpdatePeriod} {station : Station} {history : List Cycle}

/-- A tick may only take the module from idle to connecting. -/
theorem Kept.timerCallback (kept : Kept period history station) :
    Kept period history (station.step period .timerCallback) where
  rhythm := kept.rhythm
  point := Control.point_timerCallback.trans kept.point
  consistent := kept.consistent.timerCallback
  readout := by
    rw [← kept.readout]
    simp only [step, Control.ds18b20State_timerCallback]
  latest := kept.latest
  sinceUpload := by
    have before := kept.sinceUpload
    unfold SinceUpload at before ⊢
    simp only [step]
    rcases kept.consistent.timerCallback_cases with
      ⟨-, -, -, after⟩ | ⟨idle, -, after⟩ | ⟨-, after⟩
    · rw [after]
      exact before
    · rw [after]
      simpa only [idle] using before
    · rw [after]
      exact before

/-- The next cycle goes on with the stretch, or closes it. -/
theorem Kept.upload (kept : Kept period history station)
    (readings : Readings) :
    let cycle := station.nextCycle readings
    let stretch := sinceLast Cycle.sends history
    (cycle.sends = true ∧ (station.control.cycled period).espState = .idle ∧
        Awaited (period.espConnectionTime - 1) stretch) ∨
      cycle.sends = false ∧
        SinceUpload period (station.control.cycled period)
          (stretch ++ [cycle]) := by
  intro cycle stretch
  have before := kept.sinceUpload
  unfold SinceUpload at before ⊢
  cases state : station.control.espState with
  | idle =>
      simp only [state] at before
      right
      refine ⟨by simp [cycle, nextCycle, Cycle.sends, state], ?_⟩
      simp only [Control.cycled, state]
      rw [List.forall_mem_append]
      refine ⟨before, ?_⟩
      simp [cycle, nextCycle, Cycle.quiet, state]
  | connectToServer =>
      simp only [state] at before
      have none := Control.counter_of_not_awaiting kept.consistent kept.point
        (by simp [state])
      right
      refine ⟨by simp [cycle, nextCycle, Cycle.sends, state], ?_⟩
      simp only [Control.cycled, state, none]
      exact ⟨stretch, cycle, [], rfl, before,
        by simp [cycle, nextCycle, Cycle.connects, state], rfl, by simp⟩
  | awaitForConnection =>
      simp only [state] at before
      obtain ⟨counted, bound⟩ := Control.counter_of_awaiting kept.consistent
        kept.point state
      have quiet : cycle.quiet := by
        simp [cycle, nextCycle, Cycle.quiet, state]
      have waits := before.next quiet
      right
      refine ⟨by simp [cycle, nextCycle, Cycle.sends, state], ?_⟩
      by_cases waited : period.espConnectionTime - 1 ≤
          (station.control.counter + 1).toNat
      · have exactly : station.control.counter.toNat + 1 =
            period.espConnectionTime - 1 := by
          rw [counted] at waited
          omega
        simp only [Control.cycled, state, if_pos waited]
        rw [← exactly]
        exact waits
      · simp only [Control.cycled, state, if_neg waited]
        rw [counted]
        exact waits
  | sendData =>
      simp only [state] at before
      left
      exact ⟨by simp [cycle, nextCycle, Cycle.sends, state],
        by simp only [Control.cycled, state], before⟩

theorem SinceUpload.underway {control : Control} {cycles : List Cycle}
    (consistent : control.Consistent period)
    (start : control.point = .testUpdateState)
    (sinceUpload : SinceUpload period control cycles) :
    (∀ cycle ∈ cycles, cycle.quiet) ∨
      ∃ waited < period.espConnectionTime, Awaited waited cycles := by
  have twoLe := period.twoLe
  unfold SinceUpload at sinceUpload
  cases state : control.espState with
  | idle | connectToServer =>
      simp only [state] at sinceUpload
      exact Or.inl sinceUpload
  | awaitForConnection =>
      simp only [state] at sinceUpload
      have bound := (Control.counter_of_awaiting consistent start state).2
      exact Or.inr ⟨_, by omega, sinceUpload⟩
  | sendData =>
      simp only [state] at sinceUpload
      exact Or.inr ⟨_, by omega, sinceUpload⟩

/-- The rhythm goes on. -/
theorem Kept.cycle (kept : Kept period history station)
    (readings : Readings) :
    Kept period (history ++ [station.nextCycle readings])
      (station.cycle period readings).1 := by
  obtain ⟨control, drawn⟩ := state_cycle period readings station
  have consistent := kept.consistent.cycled kept.point
  have start : (station.control.cycled period).point = .testUpdateState := by
    rw [← control, point_cycle, kept.point]
  have readout := kept.readout
  have upload := kept.upload readings
  have latest : history ≠ [] →
      ((history ++ [station.nextCycle readings]).filterMap
        Cycle.outdoor).getLast? = some (station.nextCycle readings).drawn := by
    intro some
    cases state : station.control.ds18b20State with
    | getMeasurement => simp [nextCycle, state, List.filterMap_append]
    | requestConversion =>
        have even := readout.mp state
        have positive := List.length_pos_iff.mpr some
        simpa [nextCycle, state, List.filterMap_append] using
          kept.latest (by omega)
  refine ⟨kept.rhythm.concat ?_ latest ?_ ?_, ?_, ?_, ?_, ?_, ?_⟩
  · rw [← readout]
    cases state : station.control.ds18b20State <;> simp [nextCycle, state]
  · intro sends
    rcases upload with ⟨-, -, awaited⟩ | ⟨silent, -⟩
    · exact awaited
    · rw [sends] at silent
      exact absurd silent (by simp)
  · intro silent
    rcases upload with ⟨sends, -⟩ | ⟨-, goesOn⟩
    · rw [sends] at silent
      exact absurd silent (by simp)
    · exact goesOn.underway consistent start
  · rw [control]
    exact start
  · rw [control]
    exact consistent
  · rw [control, Control.ds18b20State_cycled, List.length_append,
      List.length_singleton]
    cases state : station.control.ds18b20State with
    | requestConversion =>
        have even := readout.mp state
        simp only [DS18B20ReadoutState.other, reduceCtorEq, false_iff]
        omega
    | getMeasurement =>
        have odd : ¬history.length % 2 = 0 := by
          simp [← readout, state]
        simp only [DS18B20ReadoutState.other, true_iff]
        omega
  · intro several
    rw [drawn]
    apply latest
    intro empty
    simp [empty] at several
  · rw [control, sinceLast_concat]
    rcases upload with ⟨sends, idle, -⟩ | ⟨silent, goesOn⟩
    · simp [sends, SinceUpload, idle]
    · rw [silent, if_neg Bool.false_ne_true]
      exact goesOn

theorem kept_exec {initial : Station} (started : initial.Started)
    (occasions : List Occasion) :
    Kept period ((cycles period).trace initial occasions)
      ((cycles period).exec initial occasions) := by
  refine (cycles period).historyInvariant (fun _ => True)
    (fun history station => Kept period history station) ?_ initial ?_
    occasions (fun _ _ => trivial)
  · intro history station occasion _ kept
    cases occasion with
    | tick => simpa [cycles, uninterrupted] using kept.timerCallback
    | cycle readings => exact kept.cycle readings
  · refine ⟨rhythm_nil period, ?_, ?_, ?_, by simp, ?_⟩
    · rw [started.control]
      rfl
    · rw [started.control]
      exact Control.consistent_initial period
    · rw [started.control]
      simp [Control.initial]
    · simp [started.control, Control.initial, SinceUpload]

/-- In every run, wherever the interrupt comes, the calls are those of cycles in
this rhythm, and the beginning of one more. -/
theorem exists_rhythm {initial : Station} (started : initial.Started)
    (actions : List Action) :
    ∃ cycles underway next, Rhythm period (cycles ++ [next]) ∧
      ((machine period).trace initial actions).filter (!·.isTick) =
        cycles.flatMap Cycle.events ++ underway ∧
      underway <+: next.events := by
  obtain ⟨occasions, underway, serial⟩ := @exists_serial period initial started
    actions
  obtain ⟨readings, begins⟩ := serial.cycle
  obtain ⟨state, calls⟩ := exec_cycles period initial occasions
  have kept := @kept_exec period initial started occasions
  rw [events_nextCycle, ← state] at begins
  refine ⟨(cycles period).trace initial occasions, underway, _,
    (kept.cycle readings).rhythm, ?_, begins⟩
  rw [serial.calls, calls]

/-- A tick in the middle of the second cycle. -/
theorem exists_rhythm_interrupted :
    let readings : Readings := ⟨⟨100000, 2150⟩, ⟨.positive, 3, 50⟩, ⟨40, 21⟩⟩
    let actions := List.replicate 12 (.mainStep readings) ++
      [.timerCallback] ++ List.replicate 5 (.mainStep readings) ++
      [.timerCallback] ++ List.replicate 4 (.mainStep readings)
    ∃ cycles underway next, Rhythm .configured (cycles ++ [next]) ∧
      ((machine .configured).trace zeroed actions).filter (!·.isTick) =
        cycles.flatMap Cycle.events ++ underway ∧
      underway <+: next.events :=
  exists_rhythm zeroed_started _

end Station

end QuarkMeteoStation
