import QuarkMeteoStation.BMP280
import QuarkMeteoStation.DHT11
import QuarkMeteoStation.DS18B20
import QuarkMeteoStation.Library.Simulation
import QuarkMeteoStation.Main.Protocol

namespace QuarkMeteoStation

open Library

/-! The main loop with its sensor drivers: what the loop reads is what the
drivers make of the lines and of the I2C transfers. -/

/-- The pins of `main.c`. -/
structure Wiring where
  onewire : Onewire.Config
  dht11 : DHT11.Config

def Wiring.configured : Wiring where
  onewire := ⟨14⟩
  dht11 := ⟨15⟩

/-- What one step of the main loop meets outside: the levels a sensor line shows
from now on, how a transfer comes back, and what the stack holds. -/
structure Surroundings where
  levels : Nat → QmGpioState
  transfer : I2C.Transfer BMP280.measDataSize
  stack : Vector UInt8 BMP280.measDataSize

structure Board where
  station : Station
  port : Port
  i2c : I2C.State
  bmp280 : BMP280.State
  dataFrame : DHT11.DataFrame

namespace Board

inductive Input
  | timerCallback
  | mainStep (around : Surroundings)

def facing (board : Board) (around : Surroundings) : Port :=
  { board.port with levels := around.levels, reads := 0 }

/-- The driver call at the point the main loop has reached, if there is one; a
sensor that is not read keeps its last measurement. -/
def drive (wiring : Wiring) (around : Surroundings) (board : Board) :
    Readings × Board :=
  let data := board.station.data
  let unread : Readings :=
    { bmp280 := data.bmp280Meas
      ds18b20 := data.ds18b20Meas
      dht11 := data.dht11Meas }
  match board.station.control.point with
  | .requestConversion =>
      let port := DS18B20.requestConversion wiring.onewire (board.facing around)
      (unread, { board with port := port })
  | .getTemperature =>
      let (ds18b20Meas, port) :=
        DS18B20.getTemperature wiring.onewire (board.facing around)
      ({ unread with ds18b20 := ds18b20Meas }, { board with port := port })
  | .getBMP280 =>
      let (bmp280Meas, bmp280, i2c) := BMP280.getMeasurement around.transfer
        around.stack board.bmp280 board.i2c
      ({ unread with bmp280 := bmp280Meas },
        { board with bmp280 := bmp280, i2c := i2c })
  | .getDHT11 =>
      let (dht11Meas, dataFrame, port) := DHT11.getMeasurement wiring.dht11
        board.dataFrame (board.facing around)
      ({ unread with dht11 := dht11Meas },
        { board with dataFrame := dataFrame, port := port })
  | _ => (unread, board)

def action (wiring : Wiring) (board : Board) : Input → Action
  | .timerCallback => .timerCallback
  | .mainStep around => .mainStep (board.drive wiring around).1

def step (wiring : Wiring) (period : UpdatePeriod) (board : Board)
    (input : Input) : Board :=
  let driven :=
    match input with
    | .timerCallback => board
    | .mainStep around => (board.drive wiring around).2
  { driven with
    station := board.station.step period (board.action wiring input) }

def machine (wiring : Wiring) (period : UpdatePeriod) :
    Machine Board Input Event where
  start := fun board => board.station.Started
  step := step wiring period
  output := fun board input => board.station.event (board.action wiring input)

/-- With its drivers the station runs as it does on their readings. -/
def simulation (wiring : Wiring) (period : UpdatePeriod) :
    Simulation (machine wiring period) (Station.machine period) where
  state := Board.station
  input := action wiring
  start := fun _ started => started
  step := fun _ _ => rfl
  output := fun _ _ => rfl

def actions (wiring : Wiring) (period : UpdatePeriod) (before : Board)
    (inputs : List Input) : List Action :=
  (simulation wiring period).inputs before inputs

theorem station_exec (wiring : Wiring) (period : UpdatePeriod)
    (before : Board) (inputs : List Input) :
    ((machine wiring period).exec before inputs).station =
      (Station.machine period).exec before.station
        (actions wiring period before inputs) :=
  (simulation wiring period).exec before inputs

/-- Every history of the board is one of the station alone. -/
theorem trace_eq (wiring : Wiring) (period : UpdatePeriod) (before : Board)
    (inputs : List Input) :
    (machine wiring period).trace before inputs =
      (Station.machine period).trace before.station
        (actions wiring period before inputs) :=
  (simulation wiring period).trace before inputs

theorem along_actions (wiring : Wiring) (period : UpdatePeriod)
    (Holds : Station → Action → Prop) (before : Board) (inputs : List Input) :
    (Station.machine period).Along Holds before.station
        (actions wiring period before inputs) ↔
      (machine wiring period).Along
        (fun board input => Holds board.station (board.action wiring input))
        before inputs :=
  (simulation wiring period).along Holds before inputs

def zeroed : Board where
  station := Station.zeroed
  port := DHT11.init Wiring.configured.dht11
    (Onewire.init Wiring.configured.onewire
      { configDirection := 0, direction := 0, latch := 0,
        levels := fun _ => .high, reads := 0, accesses := [] })
  i2c := I2C.init BMP280.addrLow 0 I2C.State.initial
  bmp280 := { cal := ⟨Vector.replicate _ 0⟩, meas := ⟨0, 0⟩ }
  dataFrame := ⟨0⟩

variable {wiring : Wiring} {period : UpdatePeriod} {board : Board}
variable {around : Surroundings}

theorem error_step (reading : board.station.control.point = .getBMP280) :
    (board.step wiring period (.mainStep around)).i2c.error = .ok ↔
      around.transfer.Succeeds := by
  rw [← BMP280.getMeasurement_error_iff around.transfer around.stack
    board.bmp280 board.i2c]
  simp only [step, drive, reading]

theorem dht11Meas_step (reading : board.station.control.point = .getDHT11) :
    (board.step wiring period (.mainStep around)).station.data.dht11Meas =
      (board.drive wiring around).1.dht11 := by
  simp only [step, action, Station.step, reading, Data.execute]

end Board

end QuarkMeteoStation
