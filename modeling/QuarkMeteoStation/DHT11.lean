import Mathlib.Algebra.Order.Ring.Nat
import QuarkMeteoStation.GPIO
import QuarkMeteoStation.Measurements

namespace QuarkMeteoStation

/-! `DHT11.c`: the humidity sensor on its own line. -/

namespace DHT11

structure Config where
  dht11Pin : UInt8

inductive Detect
  | present
  | absent
  deriving DecidableEq, Repr

inductive Checksum
  | invalid
  | valid
  deriving DecidableEq, Repr

inductive PinDir
  | output
  | input
  deriving DecidableEq, Repr

def frameLength : Nat := 40
def synchroLoopTimeout : UInt16 := 1000

/-- The union `DHT11_data_frame_t`: the fields overlay the bytes of `raw_data`,
least significant byte first. -/
structure DataFrame where
  rawData : UInt64
  deriving DecidableEq, Repr

namespace DataFrame

def byte (frame : DataFrame) (index : Nat) : UInt8 :=
  UInt8.ofNat (frame.rawData.toNat / 256 ^ index)

def checksum (frame : DataFrame) : UInt8 := frame.byte 0
def temperatureFraction (frame : DataFrame) : UInt8 := frame.byte 1
def temperatureInteger (frame : DataFrame) : UInt8 := frame.byte 2
def humidityFraction (frame : DataFrame) : UInt8 := frame.byte 3
def humidityInteger (frame : DataFrame) : UInt8 := frame.byte 4

end DataFrame

def pinSetDirection (config : Config) (direction : PinDir) (port : Port) :
    Port :=
  match direction with
  | .output => port.setOutput config.dht11Pin
  | .input => port.setInput config.dht11Pin

def init (config : Config) (port : Port) : Port :=
  (pinSetDirection config .input port).clearPin config.dht11Pin

def reset (config : Config) (port : Port) : Detect × Port :=
  let port := pinSetDirection config .output port
  let port := pinSetDirection config .input port
  let (response, port) := port.readPin
  (if response = .low then .present else .absent, port)

/-- The self-correcting wait after a "1" bit: read until the line is low or the
timeout has counted down. -/
def synchroLoop : Nat → QmGpioState → Port → Port
  | 0, _, port => port
  | timeout + 1, response, port =>
      if response = .high then
        let (response, port) := port.readPin
        synchroLoop timeout response port
      else port

def readBits : Nat → DataFrame → Port → DataFrame × Port
  | 0, frame, port => (frame, port)
  | remaining + 1, frame, port =>
      let frame : DataFrame := ⟨frame.rawData <<< 1⟩
      let (response, port) := port.readPin
      if response = .high then
        let frame : DataFrame := ⟨frame.rawData ||| 0x01⟩
        let port := synchroLoop synchroLoopTimeout.toNat response port
        readBits remaining frame port
      else readBits remaining frame port

def readDataFrame (config : Config) (frame : DataFrame) (port : Port) :
    Detect × DataFrame × Port :=
  match reset config port with
  | (.absent, port) => (.absent, frame, port)
  | (.present, port) =>
      let (frame, port) := readBits frameLength frame port
      (.present, frame, port)

def validateChecksum (frame : DataFrame) : Checksum :=
  let a := frame.humidityInteger
  let b := frame.humidityFraction
  let c := frame.temperatureInteger
  let d := frame.temperatureFraction
  let e := frame.checksum
  if (a.toNat + b.toNat + c.toNat + d.toNat) % 256 = e.toNat then .valid
  else .invalid

def getMeasurement (config : Config) (frame : DataFrame) (port : Port) :
    DHT11Meas × DataFrame × Port :=
  match readDataFrame config frame port with
  | (.absent, frame, port) =>
      (DHT11Error.noSensorError.measurement, frame, port)
  | (.present, frame, port) =>
      match validateChecksum frame with
      | .invalid => (DHT11Error.checksumError.measurement, frame, port)
      | .valid =>
          ({ humidity := frame.humidityInteger
             temperature := frame.temperatureInteger }, frame, port)

end DHT11

end QuarkMeteoStation
