import QuarkMeteoStation.DS18B20

namespace QuarkMeteoStation

/-! The 1-Wire driver with its delays: every call is a fixed sequence of
register accesses and waits, and without the waits it is the call itself. -/

namespace Onewire

inductive Act
  | pinSetDirection (direction : PinDir)
  /-- `clk_sys_udelay`. -/
  | udelay (microseconds : Nat)
  | readPin
  deriving DecidableEq, Repr

def Act.perform (config : Config) (port : Port) : Act → Port
  | pinSetDirection direction => Onewire.pinSetDirection config direction port
  | udelay _ => port
  | readPin => port.readPin.2

def resetScript : List Act :=
  [.pinSetDirection .output, .udelay 500,
    .pinSetDirection .input, .udelay 100,
    .readPin, .udelay 400]

def writeBitScript (bit : Bool) : List Act :=
  .pinSetDirection .output ::
    if bit then
      [.udelay 5, .pinSetDirection .input, .udelay 55]
    else
      [.udelay 60, .pinSetDirection .input]

def writeByteScriptLoop : Nat → UInt8 → List Act
  | 0, _ => []
  | remaining + 1, byte =>
      writeBitScript (byte &&& 0x01 ≠ 0) ++
        writeByteScriptLoop remaining (byte >>> 1)

def writeByteScript (byte : UInt8) : List Act :=
  writeByteScriptLoop 8 byte

def readBitScript : List Act :=
  [.pinSetDirection .output, .udelay 5,
    .pinSetDirection .input, .udelay 5,
    .readPin, .udelay 50]

def readByteScript : List Act :=
  (List.replicate 8 readBitScript).flatten

/-- The low bits of a value, lowest first. -/
def bits (count value : Nat) : List Bool :=
  (List.range count).map value.testBit

theorem bits_succ (count value : Nat) :
    bits (count + 1) value = value.testBit 0 :: bits count (value / 2) := by
  simp only [bits, List.range_succ_eq_map, List.map_cons, List.map_map]
  congr 2
  funext slot
  exact Nat.testBit_succ value slot

@[simp] theorem length_bits (count value : Nat) :
    (bits count value).length = count := by
  simp [bits]

private theorem lowest_bit (byte : UInt8) :
    decide (byte &&& 0x01 ≠ 0) = byte.toNat.testBit 0 := by
  have masked : (byte &&& 0x01).toNat = byte.toNat % 2 := by
    rw [UInt8.toNat_and]
    exact Nat.and_one_is_mod byte.toNat
  rw [Nat.testBit_zero, decide_eq_decide, ← UInt8.toNat_inj.ne, masked,
    UInt8.toNat_zero]
  omega

theorem writeByteScriptLoop_eq (remaining : Nat) (byte : UInt8) :
    writeByteScriptLoop remaining byte =
      (bits remaining byte.toNat).flatMap writeBitScript := by
  induction remaining generalizing byte with
  | zero => rfl
  | succ remaining induction =>
      have shifted : (byte >>> 1).toNat = byte.toNat / 2 := by
        simp [Nat.shiftRight_eq_div_pow]
      rw [writeByteScriptLoop, induction, shifted, bits_succ, lowest_bit,
        List.flatMap_cons]

theorem writeByteScript_eq (byte : UInt8) :
    writeByteScript byte = (bits 8 byte.toNat).flatMap writeBitScript :=
  writeByteScriptLoop_eq 8 byte

section Perform

variable (config : Config) (port : Port)

theorem perform_reset :
    resetScript.foldl (Act.perform config) port = (reset config port).2 := rfl

theorem perform_writeByteLoop (remaining : Nat) (byte : UInt8) :
    (writeByteScriptLoop remaining byte).foldl (Act.perform config) port =
      writeByteLoop config remaining byte port := by
  induction remaining generalizing byte port with
  | zero => rfl
  | succ remaining induction =>
      rw [writeByteScriptLoop, List.foldl_append, induction, writeByteLoop]
      unfold writeBitScript
      split <;> rfl

theorem perform_writeByte (byte : UInt8) :
    (writeByteScript byte).foldl (Act.perform config) port =
      writeByte config byte port :=
  perform_writeByteLoop config port 8 byte

theorem perform_readByteLoop (remaining : Nat) (byte : UInt8) :
    (List.replicate remaining readBitScript).flatten.foldl
        (Act.perform config) port =
      (readByteLoop config remaining byte port).2 := by
  induction remaining generalizing byte port with
  | zero => rfl
  | succ remaining induction =>
      rw [List.replicate_succ, List.flatten_cons, List.foldl_append,
        induction _ _]
      rfl

theorem perform_readByte :
    readByteScript.foldl (Act.perform config) port =
      (readByte config port).2 :=
  perform_readByteLoop config port 8 0

end Perform

end Onewire

namespace DS18B20

open Onewire

def requestConversionScript : List Act :=
  resetScript ++ writeByteScript Command.skipRom.code ++
    writeByteScript Command.convertT.code

def getTemperatureScript : List Act :=
  resetScript ++ writeByteScript Command.skipRom.code ++
    writeByteScript Command.readScratchpad.code ++
    readByteScript ++ readByteScript

variable (config : Onewire.Config) (port : Port)

theorem perform_requestConversion :
    requestConversionScript.foldl (Act.perform config) port =
      requestConversion config port := by
  simp only [requestConversionScript, List.foldl_append, perform_reset,
    perform_writeByte, requestConversion]

theorem perform_getTemperature :
    getTemperatureScript.foldl (Act.perform config) port =
      (getTemperature config port).2 := by
  simp only [getTemperatureScript, List.foldl_append, perform_reset,
    perform_writeByte, perform_readByte, getTemperature, readScratchpad]

end DS18B20

end QuarkMeteoStation
