import QuarkMeteoStation.I2C
import QuarkMeteoStation.Measurements

namespace QuarkMeteoStation

/-! `BMP280.c`: the indoor barometer on the I2C bus. -/

namespace BMP280

inductive Detect
  | present
  | absent
  deriving DecidableEq, Repr

def bmp280Id : UInt8 := 0x58
def addrLow : UInt8 := 0b1110110

abbrev measRegSize : Nat := 3
abbrev measDataSize : Nat := 2 * measRegSize
abbrev calDataSize : Nat := 24

def cal0Reg : UInt8 := 0x88
def pressMsbReg : UInt8 := 0xF7

/-- The union `BMP280_cal_t`: the fields overlay `raw_data` in pairs of bytes,
least significant byte first. -/
structure Cal where
  rawData : Vector UInt8 calDataSize
  deriving DecidableEq, Repr

namespace Cal

def word (cal : Cal) (index : Fin 12) : UInt16 :=
  have high : 2 * index.val + 1 < calDataSize := by
    have := index.isLt
    unfold calDataSize
    omega
  have low : 2 * index.val < calDataSize := Nat.lt_of_succ_lt high
  cal.rawData[2 * index.val].toUInt16 |||
    (cal.rawData[2 * index.val + 1].toUInt16 <<< 8)

/-- A calibration word as `(int32_t)` promotes it. -/
def unsigned (cal : Cal) (index : Fin 12) : Int32 :=
  (cal.word index).toUInt32.toInt32

def signed (cal : Cal) (index : Fin 12) : Int32 :=
  (cal.word index).toInt16.toInt32

def t1 (cal : Cal) : Int32 := cal.unsigned 0
def t2 (cal : Cal) : Int32 := cal.signed 1
def t3 (cal : Cal) : Int32 := cal.signed 2
def p1 (cal : Cal) : Int32 := cal.unsigned 3
def p2 (cal : Cal) : Int32 := cal.signed 4
def p3 (cal : Cal) : Int32 := cal.signed 5
def p4 (cal : Cal) : Int32 := cal.signed 6
def p5 (cal : Cal) : Int32 := cal.signed 7
def p6 (cal : Cal) : Int32 := cal.signed 8
def p7 (cal : Cal) : Int32 := cal.signed 9
def p8 (cal : Cal) : Int32 := cal.signed 10
def p9 (cal : Cal) : Int32 := cal.signed 11

end Cal

structure State where
  cal : Cal
  meas : BMP280Meas
  deriving DecidableEq, Repr

def merge (msb lsb xlsb : UInt8) : UInt32 :=
  (msb.toUInt32 <<< 12) ||| (lsb.toUInt32 <<< 4) ||| (xlsb.toUInt32 >>> 4)

/-- The local buffer is not initialised: `stack` is what it happens to hold. -/
def readMeasurementRegs (transfer : I2C.Transfer measDataSize)
    (stack : Vector UInt8 measDataSize) (state : State) (i2c : I2C.State) :
    State × I2C.State :=
  let (buffer, i2c) := I2C.read transfer stack i2c
  ({ state with
     meas :=
      { pressure := merge buffer[0] buffer[1] buffer[2]
        temperature := (merge buffer[3] buffer[4] buffer[5]).toInt32 } }, i2c)

/-- The quotient of the two branches on the top bit of the dividend. -/
def pressureQuotient (dividend divisor : UInt32) : UInt32 :=
  if dividend < 0x80000000 then (dividend <<< 1) / divisor
  else (dividend / divisor) >>> 1

def computeCompensation (cal : Cal) (meas : BMP280Meas) : BMP280Meas :=
  let presSigned : Int32 := meas.pressure.toInt32
  let var1 : Int32 :=
    (((meas.temperature >>> 3) - (cal.t1 <<< 1)) * cal.t2) >>> 11
  let var2 : Int32 :=
    (((((meas.temperature >>> 4) - cal.t1) *
      ((meas.temperature >>> 4) - cal.t1)) >>> 12) * cal.t3) >>> 14
  let tFine : Int32 := var1 + var2
  let temperature : Int32 := (tFine * 5 + 128) >>> 8
  let var1 : Int32 := (tFine >>> 1) - 64000
  let var2 : Int32 := (((var1 >>> 2) * (var1 >>> 2)) >>> 11) * cal.p6
  let var2 : Int32 := var2 + ((var1 * cal.p5) <<< 1)
  let var2 : Int32 := (var2 >>> 2) + (cal.p4 <<< 16)
  let var1 : Int32 :=
    (((cal.p3 * (((var1 <<< 2) * (var1 >>> 2)) >>> 13)) >>> 3) +
      ((cal.p2 * var1) >>> 1)) >>> 18
  let var1 : Int32 := ((32768 + var1) * cal.p1) >>> 15
  if var1 = 0 then { pressure := 0, temperature := temperature }
  else
    let pressure : UInt32 :=
      (((1048576 : Int32) - presSigned).toUInt32 - (var2 >>> 12).toUInt32) * 3125
    let pressure : UInt32 := pressureQuotient pressure var1.toUInt32
    let var1 : Int32 :=
      (cal.p9 * (((pressure >>> 3) * (pressure >>> 3)) >>> 13).toInt32) >>> 12
    let var2 : Int32 := ((pressure >>> 2).toInt32 * cal.p8) >>> 13
    { pressure := (pressure.toInt32 + ((var1 + var2 + cal.p7) >>> 4)).toUInt32
      temperature := temperature }

def readCalibrationRegs (transfer : I2C.Transfer calDataSize) (state : State)
    (i2c : I2C.State) : State × I2C.State :=
  let (rawData, i2c) := I2C.read transfer state.cal.rawData i2c
  ({ state with cal := ⟨rawData⟩ }, i2c)

/-- The configuration registers are written first, and how that went is
forgotten once the calibration registers are read. -/
def init (addressStatus dataStatus : Int32)
    (transfer : I2C.Transfer calDataSize) (state : State) (i2c : I2C.State) :
    State × I2C.State :=
  readCalibrationRegs transfer state (I2C.write addressStatus dataStatus i2c)

def detect (transfer : I2C.Transfer 1) (stack : UInt8) (i2c : I2C.State) :
    Detect × I2C.State :=
  let (byte, i2c) := I2C.readByte transfer stack i2c
  (if byte = bmp280Id then .present else .absent, i2c)

def getMeasurement (transfer : I2C.Transfer measDataSize)
    (stack : Vector UInt8 measDataSize) (state : State) (i2c : I2C.State) :
    BMP280Meas × State × I2C.State :=
  let (state, i2c) := readMeasurementRegs transfer stack state i2c
  let meas := computeCompensation state.cal state.meas
  (meas, { state with meas := meas }, i2c)

theorem getMeasurement_error_iff (transfer : I2C.Transfer measDataSize)
    (stack : Vector UInt8 measDataSize) (state : State) (i2c : I2C.State) :
    (getMeasurement transfer stack state i2c).2.2.error = .ok ↔
      transfer.Succeeds :=
  I2C.read_error_iff transfer stack i2c

end BMP280

end QuarkMeteoStation
