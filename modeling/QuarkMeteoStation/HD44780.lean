import QuarkMeteoStation.GPIO
import QuarkMeteoStation.Utoa

namespace QuarkMeteoStation

open Library

/-! `HD44780.c`: the character display on a four-bit bus. Everything the driver
does passes through `HD44780_write_byte`, so that its functions are given by the
calls they make of it. -/

namespace HD44780

inductive Mode
  | instruction
  | character
  deriving DecidableEq, Repr

/-- One call of `HD44780_write_byte`. -/
structure Write where
  byte : UInt8
  mode : Mode
  deriving DecidableEq, Repr

inductive DisplayType
  | display16x1Type1
  | display16x1Type2
  | display16x2
  | display16x4
  | display20x2
  | display20x4
  | display40x2
  deriving DecidableEq, Repr

structure TypeData where
  rows : UInt8
  columns : UInt8
  rowsFirstAddr : Vector UInt8 4
  deriving DecidableEq, Repr

def DisplayType.typeData : DisplayType → TypeData
  | display16x1Type1 => ⟨2, 8, #v[0x00, 0x40, 0, 0]⟩
  | display16x1Type2 => ⟨1, 16, #v[0x00, 0, 0, 0]⟩
  | display16x2 => ⟨2, 16, #v[0x00, 0x40, 0, 0]⟩
  | display16x4 => ⟨4, 16, #v[0x00, 0x40, 0x10, 0x50]⟩
  | display20x2 => ⟨2, 20, #v[0x00, 0x40, 0, 0]⟩
  | display20x4 => ⟨4, 20, #v[0x00, 0x40, 0x14, 0x54]⟩
  | display40x2 => ⟨2, 40, #v[0x00, 0x40, 0, 0]⟩

structure Pins where
  rs : UInt8
  e : UInt8
  d4 : UInt8
  d5 : UInt8
  d6 : UInt8
  d7 : UInt8
  deriving DecidableEq, Repr

structure Config where
  pins : Pins
  /-- `none` stands for the values outside the enumeration. -/
  type : Option DisplayType
  entryModeFlags : UInt8
  onOffFlags : UInt8
  deriving DecidableEq, Repr

/-- The type `HD44780_init` leaves in the configuration. -/
def Config.displayType (config : Config) : DisplayType :=
  config.type.getD .display16x2

def clearDisplayCmd : UInt8 := 0x01
def entryModeSetCmd : UInt8 := 0x04
def displayOnOffCmd : UInt8 := 0x08
def functionSetCmd : UInt8 := 0x20
def setCgramAddrCmd : UInt8 := 0x40
def setDdramAddrCmd : UInt8 := 0x80
def oneLine : UInt8 := 0x00
def twoLines : UInt8 := 0x08
def tmpBufSize : Nat := 11
def cgramCharSize : UInt8 := 8
def customGlyphsNum : Nat := 8

/-- `lcd_config` of `main.c`. -/
def Config.configured : Config where
  pins := { rs := 16, e := 18, d4 := 17, d5 := 0, d6 := 24, d7 := 9 }
  type := some .display20x2
  entryModeFlags := 0x02
  onOffFlags := 0x04

def bitState (byte : UInt8) (bit : Fin 8) : QmGpioState :=
  if byte.toNat.testBit bit then .high else .low

def rsState : Mode → QmGpioState
  | .instruction => .low
  | .character => .high

def setNibble (pins : Pins) (d7 d6 d5 d4 : QmGpioState) (port : Port) : Port :=
  let port := port.setPinState pins.d7 d7
  let port := port.setPinState pins.d6 d6
  let port := port.setPinState pins.d5 d5
  port.setPinState pins.d4 d4

def pulseEnable (pins : Pins) (port : Port) : Port :=
  (port.setPinState pins.e .high).setPinState pins.e .low

def writeByte (pins : Pins) (write : Write) (port : Port) : Port :=
  let byte := write.byte
  let port := port.setPinState pins.rs (rsState write.mode)
  let port := setNibble pins (bitState byte 7) (bitState byte 6)
    (bitState byte 5) (bitState byte 4) port
  let port := pulseEnable pins port
  let port := setNibble pins (bitState byte 3) (bitState byte 2)
    (bitState byte 1) (bitState byte 0) port
  pulseEnable pins port

/-- The port after a number of calls. -/
def writeAll (pins : Pins) (writes : List Write) (port : Port) : Port :=
  writes.foldl (fun port write => writeByte pins write port) port

def writeCmd (command : UInt8) : Write := ⟨command, .instruction⟩

def writeChar (character : UInt8) : Write := ⟨character, .character⟩

def clear (config : Config) : List Write :=
  [writeCmd clearDisplayCmd,
    writeCmd (setDdramAddrCmd |||
      config.displayType.typeData.rowsFirstAddr[0])]

def init (config : Config) : List Write :=
  [writeCmd 0x30, writeCmd 0x30, writeCmd 0x30, writeCmd 0x02,
    if config.displayType.typeData.rows = 1 then
      writeCmd (functionSetCmd ||| oneLine)
    else writeCmd (functionSetCmd ||| twoLines),
    writeCmd (displayOnOffCmd ||| config.onOffFlags),
    writeCmd (entryModeSetCmd ||| config.entryModeFlags)] ++
  clear config

def gotoxy (config : Config) (x y : UInt8) : List Write :=
  let typeData := config.displayType.typeData
  let x := if x < 1 then 1 else x
  let x := if typeData.rows < x then typeData.rows else x
  let y := if y < 1 then 1 else y
  let y := if typeData.columns < y then typeData.columns else y
  let requiredAddress := typeData.rowsFirstAddr.getD (x - 1).toNat 0 + y - 1
  [writeCmd (setDdramAddrCmd ||| requiredAddress)]

def writeString (string : List UInt8) : List Write :=
  string.map writeChar

/-- The local buffer is not initialised; `utoa` terminates what it stores. -/
def writeInteger (number : Int32) (requiredLength : UInt8) : List Write :=
  let sign := if number < 0 then [writeChar 45] else []
  let number := if number < 0 then -number else number
  let buffer := utoa number.toUInt32 ⟨List.replicate tmpBufSize 0, 0⟩
  let leadingZeros : Int8 :=
    Int8.ofInt ((requiredLength.toNat : Int) - buffer.strlen)
  sign ++ List.replicate leadingZeros.toInt.toNat (writeChar 48) ++
    writeString buffer.cstring

/-- Glyphs are eight bytes each; an address out of range selects the last. -/
def loadCustomGlyph (glyph : Vector UInt8 8) (cgramAddr : Nat) : List Write :=
  let cgramAddr := if 7 < cgramAddr then 7 else cgramAddr
  let cgramOffset : UInt8 := UInt8.ofNat cgramAddr * cgramCharSize
  writeCmd (setCgramAddrCmd ||| cgramOffset) :: glyph.toList.map writeChar

def loadCustomGlyphs (glyphs : Vector (Vector UInt8 8) customGlyphsNum) :
    List Write :=
  glyphs.toList.zipIdx.flatMap fun (glyph, index) =>
    loadCustomGlyph glyph index

end HD44780

end QuarkMeteoStation
