import QuarkMeteoStation.Measurements
import QuarkMeteoStation.Onewire

namespace QuarkMeteoStation

/-! `DS18B20.c`: the outdoor thermometer on the 1-Wire bus. -/

namespace DS18B20

inductive Command
  | convertT
  | readScratchpad
  | skipRom
  deriving DecidableEq, Repr

def Command.code : Command → UInt8
  | convertT => 0x44
  | readScratchpad => 0xBE
  | skipRom => 0xCC

def requestConversion (config : Onewire.Config) (port : Port) : Port :=
  let (_, port) := Onewire.reset config port
  let port := Onewire.writeByte config Command.skipRom.code port
  Onewire.writeByte config Command.convertT.code port

def decode (lsb msb : UInt8) : DS18B20Meas :=
  let sign : DS18B20Sign := if msb &&& 0x80 ≠ 0 then .negative else .positive
  let (msb, lsb) := if sign = .negative then (~~~msb, ~~~lsb + 1) else (msb, lsb)
  { sign := sign
    integer := UInt8.ofNat (((msb.toNat <<< 4) ||| (lsb.toNat >>> 4)) &&& 0x7F)
    fraction := UInt8.ofNat (((lsb.toNat &&& 0x0F) * 625) / 100) }

/-- The presence answer is returned beside the reading: the source drops it. -/
def readScratchpad (config : Onewire.Config) (port : Port) :
    Onewire.Detect × DS18B20Meas × Port :=
  let (presence, port) := Onewire.reset config port
  let port := Onewire.writeByte config Command.skipRom.code port
  let port := Onewire.writeByte config Command.readScratchpad.code port
  let (lsb, port) := Onewire.readByte config port
  let (msb, port) := Onewire.readByte config port
  (presence, decode lsb msb, port)

def getTemperature (config : Onewire.Config) (port : Port) :
    DS18B20Meas × Port :=
  (readScratchpad config port).2

theorem readScratchpad_present_iff (config : Onewire.Config) (port : Port) :
    (readScratchpad config port).1 = .present ↔
      port.levels port.reads = .low := by
  simp [readScratchpad, Onewire.reset, Port.readPin]

end DS18B20

end QuarkMeteoStation
