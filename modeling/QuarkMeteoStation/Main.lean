import QuarkMeteoStation.Average
import QuarkMeteoStation.ESP
import QuarkMeteoStation.Library.Machine

namespace QuarkMeteoStation

open Library

/-! `main.c`: the main loop, one access of a shared variable or one call at a
time, and the timer interrupt that may run between any two of them. -/

/-- `SERVER_UPDATE_PERIOD` and `ESP_CONNECTION_TIME`, where the counters that
count them can hold them. -/
structure UpdatePeriod where
  serverUpdatePeriod : Nat
  espConnectionTime : Nat
  twoLe : 2 ≤ espConnectionTime
  connectionLe : espConnectionTime ≤ 256
  connectionLt : espConnectionTime < serverUpdatePeriod
  periodLe : serverUpdatePeriod ≤ 65535

/-- The constants of `main.c` and `ESP.h`. -/
def UpdatePeriod.configured : UpdatePeriod where
  serverUpdatePeriod := 3600
  espConnectionTime := 10
  twoLe := by decide
  connectionLe := by decide
  connectionLt := by decide
  periodLe := by decide

inductive DS18B20ReadoutState
  | requestConversion
  | getMeasurement
  deriving DecidableEq, Repr

inductive ESPTransmissionState
  | idle
  | connectToServer
  | awaitForConnection
  | sendData
  deriving DecidableEq, Repr

inductive GUIState
  | upToDate
  | updateRequest
  deriving DecidableEq, Repr

/-- The statement the main loop executes next. -/
inductive Point
  | testUpdateState
  | switchDS18B20State
  | requestConversion
  | setGetMeasurement
  | getTemperature
  | averageUpdateDS18B20
  | setRequestConversion
  | getBMP280
  | averageUpdateBMP280
  | getDHT11
  | averageUpdateDHT11
  | switchESPState
  | connectToServer
  | setAwaitForConnection
  | incrementCounter
  | testCounter
  | setSendData
  | clearCounter
  | sendMeasurements
  | averageReset
  | setIdle
  | guiUpdate
  | setUpToDate
  deriving DecidableEq, Repr

/-- Everything the order of the calls depends on. -/
structure Control where
  point : Point
  updateState : GUIState
  espState : ESPTransmissionState
  serverUpdateCounter : UInt16
  ds18b20State : DS18B20ReadoutState
  counter : UInt8
  deriving DecidableEq, Repr

namespace Control

def initial : Control where
  point := .testUpdateState
  updateState := .updateRequest
  espState := .idle
  serverUpdateCounter := 0
  ds18b20State := .requestConversion
  counter := 0

def timerCallback (period : UpdatePeriod) (control : Control) : Control :=
  let control := { control with updateState := .updateRequest }
  let control := if control.espState = .idle then
    { control with serverUpdateCounter := control.serverUpdateCounter + 1 }
    else control
  if period.serverUpdatePeriod - period.espConnectionTime ≤
      control.serverUpdateCounter.toNat then
    { control with serverUpdateCounter := 0, espState := .connectToServer }
  else control

def next (period : UpdatePeriod) (control : Control) : Control :=
  match control.point with
  | .testUpdateState =>
      if control.updateState = .updateRequest then
        { control with point := .switchDS18B20State }
      else control
  | .switchDS18B20State =>
      match control.ds18b20State with
      | .requestConversion => { control with point := .requestConversion }
      | .getMeasurement => { control with point := .getTemperature }
  | .requestConversion => { control with point := .setGetMeasurement }
  | .setGetMeasurement =>
      { control with point := .getBMP280, ds18b20State := .getMeasurement }
  | .getTemperature => { control with point := .averageUpdateDS18B20 }
  | .averageUpdateDS18B20 => { control with point := .setRequestConversion }
  | .setRequestConversion =>
      { control with point := .getBMP280, ds18b20State := .requestConversion }
  | .getBMP280 => { control with point := .averageUpdateBMP280 }
  | .averageUpdateBMP280 => { control with point := .getDHT11 }
  | .getDHT11 => { control with point := .averageUpdateDHT11 }
  | .averageUpdateDHT11 => { control with point := .switchESPState }
  | .switchESPState =>
      match control.espState with
      | .idle => { control with point := .guiUpdate }
      | .connectToServer => { control with point := .connectToServer }
      | .awaitForConnection => { control with point := .incrementCounter }
      | .sendData => { control with point := .sendMeasurements }
  | .connectToServer => { control with point := .setAwaitForConnection }
  | .setAwaitForConnection =>
      { control with point := .guiUpdate, espState := .awaitForConnection }
  | .incrementCounter =>
      { control with point := .testCounter, counter := control.counter + 1 }
  | .testCounter =>
      if period.espConnectionTime - 1 ≤ control.counter.toNat then
        { control with point := .setSendData }
      else { control with point := .guiUpdate }
  | .setSendData =>
      { control with point := .clearCounter, espState := .sendData }
  | .clearCounter => { control with point := .guiUpdate, counter := 0 }
  | .sendMeasurements => { control with point := .averageReset }
  | .averageReset => { control with point := .setIdle }
  | .setIdle => { control with point := .guiUpdate, espState := .idle }
  | .guiUpdate => { control with point := .setUpToDate }
  | .setUpToDate =>
      { control with point := .testUpdateState, updateState := .upToDate }

end Control

structure Data where
  bmp280Meas : BMP280Meas
  ds18b20Meas : DS18B20Meas
  dht11Meas : DHT11Meas
  averages : Averages
  buffers : ESP.Buffers
  deriving DecidableEq, Repr

structure Readings where
  bmp280 : BMP280Meas
  ds18b20 : DS18B20Meas
  dht11 : DHT11Meas
  deriving DecidableEq, Repr

def Averages.published (averages : Averages) : ESP.Measurements where
  bmp280Meas := averages.bmp280MeasAvg
  ds18b20Meas := averages.ds18b20MeasAvg
  dht11Meas := averages.dht11MeasAvg

def Data.execute (point : Point) (readings : Readings) (data : Data) : Data :=
  match point with
  | .getTemperature => { data with ds18b20Meas := readings.ds18b20 }
  | .averageUpdateDS18B20 =>
      { data with
        averages := averageUpdateDS18B20 data.ds18b20Meas data.averages }
  | .getBMP280 => { data with bmp280Meas := readings.bmp280 }
  | .averageUpdateBMP280 =>
      { data with
        averages := averageUpdateBMP280 data.bmp280Meas data.averages }
  | .getDHT11 => { data with dht11Meas := readings.dht11 }
  | .averageUpdateDHT11 =>
      { data with averages := averageUpdateDHT11 data.dht11Meas data.averages }
  | .connectToServer =>
      { data with buffers := (ESP.connectToServer data.buffers).1 }
  | .sendMeasurements =>
      { data with buffers :=
          (ESP.sendMeasurements data.averages.published data.buffers).1 }
  | .averageReset => { data with averages := averageReset data.averages }
  | _ => data

structure Station where
  control : Control
  data : Data
  deriving DecidableEq, Repr

inductive Action
  | timerCallback
  | mainStep (readings : Readings)
  deriving DecidableEq, Repr

/-- The calls of a run, and where its cycles begin and end. -/
inductive Event
  | timerCallback
  | cycleStart
  | requestConversion
  | getTemperature (ds18b20Meas : DS18B20Meas)
  | averageUpdateDS18B20 (ds18b20Meas : DS18B20Meas)
  | getBMP280 (bmp280Meas : BMP280Meas)
  | averageUpdateBMP280 (bmp280Meas : BMP280Meas)
  | getDHT11 (dht11Meas : DHT11Meas)
  | averageUpdateDHT11 (dht11Meas : DHT11Meas)
  | connectToServer (message : List UInt8)
  | sendMeasurements (messages : List (List UInt8))
  | averageReset
  | guiUpdate (bmp280Meas : BMP280Meas) (ds18b20Meas : DS18B20Meas)
      (dht11Meas : DHT11Meas)
  | cycleEnd
  deriving DecidableEq, Repr

namespace Station

def step (period : UpdatePeriod) (station : Station) : Action → Station
  | .timerCallback =>
      { station with control := station.control.timerCallback period }
  | .mainStep readings =>
      { control := station.control.next period
        data := station.data.execute station.control.point readings }

def call (station : Station) (readings : Readings) : Option Event :=
  let data := station.data
  match station.control.point with
  | .testUpdateState =>
      if station.control.updateState = .updateRequest then some .cycleStart
      else none
  | .requestConversion => some .requestConversion
  | .getTemperature => some (.getTemperature readings.ds18b20)
  | .averageUpdateDS18B20 => some (.averageUpdateDS18B20 data.ds18b20Meas)
  | .getBMP280 => some (.getBMP280 readings.bmp280)
  | .averageUpdateBMP280 => some (.averageUpdateBMP280 data.bmp280Meas)
  | .getDHT11 => some (.getDHT11 readings.dht11)
  | .averageUpdateDHT11 => some (.averageUpdateDHT11 data.dht11Meas)
  | .connectToServer =>
      some (.connectToServer (ESP.connectToServer data.buffers).2)
  | .sendMeasurements =>
      some (.sendMeasurements
        (ESP.sendMeasurements data.averages.published data.buffers).2)
  | .averageReset => some .averageReset
  | .guiUpdate =>
      some (.guiUpdate data.bmp280Meas data.ds18b20Meas data.dht11Meas)
  | .setUpToDate => some .cycleEnd
  | _ => none

def event (station : Station) : Action → Option Event
  | .timerCallback => some .timerCallback
  | .mainStep readings => station.call readings

/-- The state `main` enters its loop in: `average_init` has cleared the
accumulators, while the structs of `main` hold whatever was on the stack. -/
structure Started (station : Station) : Prop where
  control : station.control = Control.initial
  averages : ∃ averages, station.data.averages = averageReset averages
  buffers : station.data.buffers = ESP.Buffers.initial

def zeroed : Station where
  control := Control.initial
  data :=
    { bmp280Meas := ⟨0, 0⟩
      ds18b20Meas := ⟨.positive, 0, 0⟩
      dht11Meas := ⟨0, 0⟩
      averages := Averages.cleared
      buffers := ESP.Buffers.initial }

theorem zeroed_started : zeroed.Started where
  control := rfl
  averages := ⟨Averages.cleared, rfl⟩
  buffers := rfl

def machine (period : UpdatePeriod) : Machine Station Action Event where
  start := Started
  step := step period
  output := event

@[simp] theorem machine_step (period : UpdatePeriod) :
    (machine period).step = step period := rfl

@[simp] theorem machine_output (period : UpdatePeriod) :
    (machine period).output = event := rfl

end Station

end QuarkMeteoStation
