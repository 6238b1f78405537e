import QuarkMeteoStation.Measurements
import QuarkMeteoStation.Utoa

namespace QuarkMeteoStation

open Library

/-! `ESP.c`: the AT commands and the HTTP request sent over the UART. -/

namespace ESP

/-- The three averages the module was initialised to point at. -/
structure Measurements where
  bmp280Meas : BMP280Meas
  ds18b20Meas : DS18B20Meas
  dht11Meas : DHT11Meas
  deriving DecidableEq, Repr

inductive Target
  | post
  | temp
  deriving DecidableEq, Repr

structure Buffers where
  postBuffer : Buffer
  tempBuffer : Buffer
  utoaBuffer : Buffer
  deriving DecidableEq, Repr

def maxPostSize : Nat := 200
def maxTempSize : Nat := 100
def maxUtoaSize : Nat := 8

def deviceName : List UInt8 := ascii "Quark"
def hostAddress : List UInt8 := ascii "lowd.herokuapp.com"
def hostPort : List UInt8 := ascii "80"
def apiPath : List UInt8 := ascii "/api/sensors/full"

namespace Buffers

def initial : Buffers where
  postBuffer := ⟨List.replicate maxPostSize 0, 0⟩
  tempBuffer := ⟨List.replicate maxTempSize 0, 0⟩
  utoaBuffer := ⟨List.replicate maxUtoaSize 0, 0⟩

def get (buffers : Buffers) : Target → Buffer
  | .post => buffers.postBuffer
  | .temp => buffers.tempBuffer

def set (buffers : Buffers) (target : Target) (buffer : Buffer) : Buffers :=
  match target with
  | .post => { buffers with postBuffer := buffer }
  | .temp => { buffers with tempBuffer := buffer }

@[simp] theorem get_set_self (buffers : Buffers) (target : Target)
    (buffer : Buffer) : (buffers.set target buffer).get target = buffer := by
  cases target <;> rfl

theorem get_set_other (buffers : Buffers) {target other : Target}
    (different : other ≠ target) (buffer : Buffer) :
    (buffers.set target buffer).get other = buffers.get other := by
  cases target <;> cases other <;> first | rfl | contradiction

@[simp] theorem utoaBuffer_set (buffers : Buffers) (target : Target)
    (buffer : Buffer) :
    (buffers.set target buffer).utoaBuffer = buffers.utoaBuffer := by
  cases target <;> rfl

def strcpy (buffers : Buffers) (target : Target) (source : List UInt8) :
    Buffers :=
  buffers.set target ((buffers.get target).strcpy source)

def strcat (buffers : Buffers) (target : Target) (source : List UInt8) :
    Buffers :=
  buffers.set target ((buffers.get target).strcat source)

def strcatNumber (buffers : Buffers) (target : Target) (number : UInt32) :
    Buffers :=
  let buffers := { buffers with utoaBuffer := utoa number buffers.utoaBuffer }
  buffers.strcat target buffers.utoaBuffer.cstring

@[simp] theorem tempBuffer_strcpy_post (buffers : Buffers)
    (source : List UInt8) :
    (buffers.strcpy .post source).tempBuffer = buffers.tempBuffer := rfl

@[simp] theorem tempBuffer_strcat_post (buffers : Buffers)
    (source : List UInt8) :
    (buffers.strcat .post source).tempBuffer = buffers.tempBuffer := rfl

@[simp] theorem tempBuffer_strcatNumber_post (buffers : Buffers)
    (number : UInt32) :
    (buffers.strcatNumber .post number).tempBuffer = buffers.tempBuffer := rfl

@[simp] theorem postBuffer_strcpy_temp (buffers : Buffers)
    (source : List UInt8) :
    (buffers.strcpy .temp source).postBuffer = buffers.postBuffer := rfl

structure InBounds (buffers : Buffers) : Prop where
  post : buffers.postBuffer.written ≤ maxPostSize
  temp : buffers.tempBuffer.written ≤ maxTempSize
  utoa : buffers.utoaBuffer.written ≤ maxUtoaSize

end Buffers

/-- The bytes `qm_uart_write_buffer` sends: the length is a `uint8_t`. -/
def writeString (string : Buffer) : List UInt8 :=
  let length : UInt8 := UInt8.ofNat string.strlen
  string.bytes.take length.toNat

def prepareJson (meas : Measurements) (buffers : Buffers) : Buffers :=
  let buffers := buffers.strcpy .temp (ascii "\x7b\"name\":\"")
  let buffers := buffers.strcat .temp deviceName
  let buffers := buffers.strcat .temp (ascii "\",\"Ti\":\"")
  let buffers := buffers.strcatNumber .temp
    (UInt32.ofInt meas.bmp280Meas.temperature.toInt)
  let buffers := buffers.strcat .temp (ascii "\",\"P\":\"")
  let buffers := buffers.strcatNumber .temp meas.bmp280Meas.pressure
  let buffers := buffers.strcat .temp (ascii "\",\"To\":\"")
  let buffers := if meas.ds18b20Meas.sign = .negative then
    buffers.strcat .temp (ascii "-") else buffers
  let temperature : UInt16 := UInt16.ofNat
    (meas.ds18b20Meas.integer.toNat * 100 + meas.ds18b20Meas.fraction.toNat)
  let buffers := buffers.strcatNumber .temp temperature.toUInt32
  let buffers := buffers.strcat .temp (ascii "\",\"RH\":\"")
  let buffers := buffers.strcatNumber .temp meas.dht11Meas.humidity.toUInt32
  buffers.strcat .temp (ascii "\"\x7d")

def preparePostRequest (meas : Measurements) (buffers : Buffers) : Buffers :=
  let buffers := prepareJson meas buffers
  let buffers := buffers.strcpy .post (ascii "POST ")
  let buffers := buffers.strcat .post apiPath
  let buffers := buffers.strcat .post (ascii " HTTP/1.1\r\nHost:")
  let buffers := buffers.strcat .post hostAddress
  let buffers := buffers.strcat .post (ascii "\r\nContent-Length:")
  let payloadLength : UInt8 := UInt8.ofNat buffers.tempBuffer.strlen
  let buffers := buffers.strcatNumber .post payloadLength.toUInt32
  let buffers := buffers.strcat .post
    (ascii "\r\nContent-Type:application/json\r\n\r\n")
  let buffers := buffers.strcat .post buffers.tempBuffer.cstring
  buffers.strcat .post (ascii "\r\n")

/-- The prepared buffers and the message written to the UART. -/
def writeTcpSendAT (buffers : Buffers) : Buffers × List UInt8 :=
  let buffers := buffers.strcpy .temp (ascii "AT+CIPSEND=")
  let postLength : UInt16 := UInt16.ofNat buffers.postBuffer.strlen
  let buffers := buffers.strcatNumber .temp postLength.toUInt32
  let buffers := buffers.strcat .temp (ascii "\r\n")
  (buffers, writeString buffers.tempBuffer)

def connectToServer (buffers : Buffers) : Buffers × List UInt8 :=
  let buffers := buffers.strcpy .temp (ascii "AT+CIPSTART=\"TCP\",\"")
  let buffers := buffers.strcat .temp hostAddress
  let buffers := buffers.strcat .temp (ascii "\",")
  let buffers := buffers.strcat .temp hostPort
  let buffers := buffers.strcat .temp (ascii "\r\n")
  (buffers, writeString buffers.tempBuffer)

def sendMeasurements (meas : Measurements) (buffers : Buffers) :
    Buffers × List (List UInt8) :=
  let buffers := preparePostRequest meas buffers
  let (buffers, sendAT) := writeTcpSendAT buffers
  (buffers, [sendAT, writeString buffers.postBuffer])

end ESP

end QuarkMeteoStation
