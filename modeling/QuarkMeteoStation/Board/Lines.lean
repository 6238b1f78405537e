import QuarkMeteoStation.Board
import QuarkMeteoStation.GPIO.OpenDrain
import QuarkMeteoStation.HD44780.Pulses

namespace QuarkMeteoStation

/-! The three drivers on their one port. Each keeps to its own pins, and the two
sensor lines are only ever pulled low or left alone. -/

/-- The pins of the port that are in use. -/
structure Lines extends Wiring where
  lcd : HD44780.Pins

namespace Lines

def sensors (lines : Lines) : List UInt8 :=
  [lines.onewire.onewirePin, lines.dht11.dht11Pin]

structure Valid (lines : Lines) : Prop where
  distinct : (lines.lcd.toList ++ lines.sensors).Nodup
  inPort : ∀ pin ∈ lines.lcd.toList ++ lines.sensors, pin.toNat < 25

def configured : Lines where
  toWiring := Wiring.configured
  lcd := HD44780.Config.configured.pins

theorem configured_valid : configured.Valid where
  distinct := by decide
  inPort := by decide +kernel

end Lines

/-- `gpio_setup` of `main.c`: the display's pins are outputs, all others inputs. -/
def gpioSetup (pins : HD44780.Pins) (port : Port) : Port :=
  { port with
    configDirection := Port.pinMask pins.d7 ||| Port.pinMask pins.d6 |||
      Port.pinMask pins.d5 ||| Port.pinMask pins.d4 ||| Port.pinMask pins.rs |||
      Port.pinMask pins.e }.setConfig

namespace HD44780

/-- The calls the driver offers once it is initialised. -/
inductive Call
  | writeByte (byte : UInt8) (mode : Mode)
  | writeCmd (command : UInt8)
  | writeChar (character : UInt8)
  | clear
  | gotoxy (x y : UInt8)
  | writeInteger (number : Int32) (requiredLength : UInt8)
  | writeString (string : List UInt8)
  | loadCustomGlyph (glyph : Vector UInt8 8) (cgramAddr : Nat)
  | loadCustomGlyphs (glyphs : Vector (Vector UInt8 8) customGlyphsNum)

def Call.writes (config : Config) : Call → List Write
  | .writeByte byte mode => [⟨byte, mode⟩]
  | .writeCmd command => [HD44780.writeCmd command]
  | .writeChar character => [HD44780.writeChar character]
  | .clear => HD44780.clear config
  | .gotoxy x y => HD44780.gotoxy config x y
  | .writeInteger number requiredLength =>
      HD44780.writeInteger number requiredLength
  | .writeString string => HD44780.writeString string
  | .loadCustomGlyph glyph cgramAddr =>
      HD44780.loadCustomGlyph glyph cgramAddr
  | .loadCustomGlyphs glyphs => HD44780.loadCustomGlyphs glyphs

end HD44780

/-- What the drivers hold between two calls. -/
structure Drivers where
  port : Port
  lcd : HD44780.Config
  dataFrame : DHT11.DataFrame

namespace Drivers

inductive Call
  | lcdInit (type : Option HD44780.DisplayType)
      (entryModeFlags onOffFlags : UInt8)
  | lcd (call : HD44780.Call)
  | onewireInit
  | onewireReset
  | onewireWriteByte (byte : UInt8)
  | onewireReadByte
  | requestConversion
  | getTemperature
  | dht11Init
  | dht11GetMeasurement

def perform (lines : Lines) (drivers : Drivers) : Call → Drivers
  | .lcdInit type entryModeFlags onOffFlags =>
      let config : HD44780.Config :=
        { pins := lines.lcd
          type := type
          entryModeFlags := entryModeFlags
          onOffFlags := onOffFlags }
      { drivers with
        lcd := config
        port := HD44780.writeAll config.pins (HD44780.init config)
          drivers.port }
  | .lcd call =>
      { drivers with
        port := HD44780.writeAll drivers.lcd.pins (call.writes drivers.lcd)
          drivers.port }
  | .onewireInit =>
      { drivers with port := Onewire.init lines.onewire drivers.port }
  | .onewireReset =>
      { drivers with port := (Onewire.reset lines.onewire drivers.port).2 }
  | .onewireWriteByte byte =>
      { drivers with port := Onewire.writeByte lines.onewire byte drivers.port }
  | .onewireReadByte =>
      { drivers with port := (Onewire.readByte lines.onewire drivers.port).2 }
  | .requestConversion =>
      { drivers with
        port := DS18B20.requestConversion lines.onewire drivers.port }
  | .getTemperature =>
      { drivers with
        port := (DS18B20.getTemperature lines.onewire drivers.port).2 }
  | .dht11Init =>
      { drivers with port := DHT11.init lines.dht11 drivers.port }
  | .dht11GetMeasurement =>
      let (_, dataFrame, port) := DHT11.getMeasurement lines.dht11
        drivers.dataFrame drivers.port
      { drivers with dataFrame := dataFrame, port := port }

def run (lines : Lines) (calls : List Call) (drivers : Drivers) : Drivers :=
  calls.foldl (perform lines) drivers

/-- The drivers after `gpio_setup`, with only its accesses on record. -/
def setUp (lines : Lines) (drivers : Drivers) : Drivers :=
  { drivers with
    port := gpioSetup lines.lcd { drivers.port with accesses := [] } }

/-- The calls `main` begins with. -/
def startup (type : Option HD44780.DisplayType)
    (entryModeFlags onOffFlags : UInt8) : List Call :=
  [.lcdInit type entryModeFlags onOffFlags, .onewireInit, .dht11Init]

end Drivers

section Held

open Port

variable {directions : UInt32} {sensors cleared : List UInt8} {port : Port}

namespace Onewire

variable {config : Config}

theorem held_init (held : Held directions sensors cleared port)
    (inputs : ∀ pin ∈ sensors, isSet directions pin = false)
    (inPort : config.onewirePin.toNat < 32)
    (sensor : config.onewirePin ∈ sensors) :
    Held directions sensors (config.onewirePin :: cleared)
      (init config port) :=
  (held.setInput inputs inPort sensor).clearPin inputs inPort

variable (inputs : ∀ pin ∈ sensors, isSet directions pin = false)
variable (inPort : config.onewirePin.toNat < 32)
variable (sensor : config.onewirePin ∈ sensors)
variable (low : config.onewirePin ∈ cleared)

include inputs inPort sensor low

theorem held_reset (held : Held directions sensors cleared port) :
    Held directions sensors cleared (reset config port).2 :=
  (held.slot inputs inPort sensor low).readPin

theorem held_writeByte (held : Held directions sensors cleared port)
    (byte : UInt8) :
    Held directions sensors cleared (writeByte config byte port) := by
  have loop (remaining : Nat) : ∀ (byte : UInt8) (port : Port),
      Held directions sensors cleared port →
      Held directions sensors cleared
        (writeByteLoop config remaining byte port) := by
    induction remaining with
    | zero => exact fun _ _ held => held
    | succ remaining induction =>
        intro byte port held
        exact induction _ _ (held.slot inputs inPort sensor low)
  exact loop 8 byte port held

theorem held_readByte (held : Held directions sensors cleared port) :
    Held directions sensors cleared (readByte config port).2 := by
  have loop (remaining : Nat) : ∀ (byte : UInt8) (port : Port),
      Held directions sensors cleared port →
      Held directions sensors cleared
        (readByteLoop config remaining byte port).2 := by
    induction remaining with
    | zero => exact fun _ _ held => held
    | succ remaining induction =>
        intro byte port held
        exact induction _ _ (held.slot inputs inPort sensor low).readPin
  exact loop 8 0 port held

theorem held_requestConversion (held : Held directions sensors cleared port) :
    Held directions sensors cleared (DS18B20.requestConversion config port) :=
  held_writeByte inputs inPort sensor low
    (held_writeByte inputs inPort sensor low
      (held_reset inputs inPort sensor low held) _) _

theorem held_getTemperature (held : Held directions sensors cleared port) :
    Held directions sensors cleared
      (DS18B20.getTemperature config port).2 := by
  have addressed := held_writeByte inputs inPort sensor low
    (held_writeByte inputs inPort sensor low
      (held_reset inputs inPort sensor low held) DS18B20.Command.skipRom.code)
    DS18B20.Command.readScratchpad.code
  exact held_readByte inputs inPort sensor low
    (held_readByte inputs inPort sensor low addressed)

end Onewire

namespace DHT11

variable {config : Config}

theorem held_init (held : Held directions sensors cleared port)
    (inputs : ∀ pin ∈ sensors, isSet directions pin = false)
    (inPort : config.dht11Pin.toNat < 32)
    (sensor : config.dht11Pin ∈ sensors) :
    Held directions sensors (config.dht11Pin :: cleared)
      (init config port) :=
  (held.setInput inputs inPort sensor).clearPin inputs inPort

theorem held_synchroLoop (timeout : Nat) (response : QmGpioState) :
    ∀ port, Held directions sensors cleared port →
      Held directions sensors cleared (synchroLoop timeout response port) := by
  induction timeout generalizing response with
  | zero => exact fun _ held => held
  | succ timeout induction =>
      intro port held
      rw [synchroLoop]
      split
      · exact induction _ _ held.readPin
      · exact held

theorem held_readBits (remaining : Nat) :
    ∀ (frame : DataFrame) (port : Port),
      Held directions sensors cleared port →
      Held directions sensors cleared (readBits remaining frame port).2 := by
  induction remaining with
  | zero => exact fun _ _ held => held
  | succ remaining induction =>
      intro frame port held
      rw [readBits]
      dsimp only [Port.readPin]
      split
      · exact induction _ _ (held_synchroLoop _ _ _ held.readPin)
      · exact induction _ _ held.readPin

theorem held_getMeasurement (inputs : ∀ pin ∈ sensors, isSet directions pin = false)
    (inPort : config.dht11Pin.toNat < 32) (sensor : config.dht11Pin ∈ sensors)
    (low : config.dht11Pin ∈ cleared)
    (held : Held directions sensors cleared port) (frame : DataFrame) :
    Held directions sensors cleared (getMeasurement config frame port).2.2 := by
  have afterReset : Held directions sensors cleared (reset config port).2 :=
    (held.slot inputs inPort sensor low).readPin
  unfold getMeasurement readDataFrame
  cases answer : reset config port with
  | mk response afterwards =>
      rw [answer] at afterReset
      cases response with
      | absent => exact afterReset
      | present =>
          have read := held_readBits frameLength frame afterwards afterReset
          dsimp only
          split <;> exact read

end DHT11

namespace HD44780

variable {pins : Pins}
variable (inputs : ∀ pin ∈ sensors, isSet directions pin = false)
variable (inPort : ∀ pin ∈ pins.toList, pin.toNat < 32)
variable (others : ∀ pin ∈ pins.toList, pin ∉ cleared)

include inputs inPort others

theorem held_setPinState (held : Held directions sensors cleared port)
    {pin : UInt8} (member : pin ∈ pins.toList) (state : QmGpioState) :
    Held directions sensors cleared (port.setPinState pin state) :=
  held.setPinState inputs (inPort pin member) (others pin member) state

theorem held_nibble (held : Held directions sensors cleared port)
    (d7 d6 d5 d4 : QmGpioState) :
    Held directions sensors cleared
      (pulseEnable pins (setNibble pins d7 d6 d5 d4 port)) := by
  have set {port : Port} (held : Held directions sensors cleared port)
      {pin : UInt8} (member : pin ∈ pins.toList) (state : QmGpioState) :=
    held_setPinState inputs inPort others held member state
  have d7Set := set held (show pins.d7 ∈ pins.toList by simp [Pins.toList]) d7
  have d6Set := set d7Set (show pins.d6 ∈ pins.toList by simp [Pins.toList]) d6
  have d5Set := set d6Set (show pins.d5 ∈ pins.toList by simp [Pins.toList]) d5
  have d4Set := set d5Set (show pins.d4 ∈ pins.toList by simp [Pins.toList]) d4
  have enable : pins.e ∈ pins.toList := by simp [Pins.toList]
  exact set (set d4Set enable .high) enable .low

theorem held_writeAll (held : Held directions sensors cleared port)
    (writes : List Write) :
    Held directions sensors cleared (writeAll pins writes port) := by
  induction writes generalizing port with
  | nil => exact held
  | cons write writes induction =>
      have select : pins.rs ∈ pins.toList := by simp [Pins.toList]
      exact induction (held_nibble inputs inPort others
        (held_nibble inputs inPort others
          (held_setPinState inputs inPort others held select _) _ _ _ _)
        _ _ _ _)

end HD44780

end Held

namespace Drivers

/-- The sensor pins a call pulls low. -/
def drives (lines : Lines) : Call → List UInt8
  | .onewireReset | .onewireWriteByte _ | .onewireReadByte
  | .requestConversion | .getTemperature => [lines.onewire.onewirePin]
  | .dht11GetMeasurement => [lines.dht11.dht11Pin]
  | .lcdInit _ _ _ | .lcd _ | .onewireInit | .dht11Init => []

/-- The sensor pins a call clears in the latch. -/
def clears (lines : Lines) : Call → List UInt8
  | .onewireInit => [lines.onewire.onewirePin]
  | .dht11Init => [lines.dht11.dht11Pin]
  | _ => []

/-- No pin is pulled low before it has been cleared. -/
def Ordered (lines : Lines) : List UInt8 → List Call → Prop
  | _, [] => True
  | cleared, call :: calls =>
      (∀ pin ∈ drives lines call, pin ∈ cleared) ∧
        Ordered lines (clears lines call ++ cleared) calls

structure Held (lines : Lines) (directions : UInt32) (cleared : List UInt8)
    (drivers : Drivers) : Prop where
  port : drivers.port.Held directions lines.sensors cleared
  lcd : drivers.lcd.pins = lines.lcd
  sensors : ∀ pin ∈ cleared, pin ∈ lines.sensors

section Held

variable {lines : Lines} {directions : UInt32} {cleared : List UInt8}
variable {drivers : Drivers}

theorem mem_sensors_of_clears {call : Call} {pin : UInt8}
    (member : pin ∈ clears lines call) : pin ∈ lines.sensors := by
  cases call with
  | onewireInit | dht11Init =>
      rw [List.mem_singleton.mp member]
      simp [Lines.sensors]
  | _ => exact absurd member List.not_mem_nil

/-- What one call does to the port. -/
theorem held_perform (valid : lines.Valid)
    (inputs : ∀ pin ∈ lines.sensors, Port.isSet directions pin = false)
    (call : Call) (low : ∀ pin ∈ drives lines call, pin ∈ cleared)
    (held : Held lines directions cleared drivers) :
    Held lines directions (clears lines call ++ cleared)
      (perform lines drivers call) := by
  have inPort : ∀ pin ∈ lines.lcd.toList ++ lines.sensors, pin.toNat < 32 :=
    fun pin member => Nat.lt_trans (valid.inPort pin member) (by decide)
  have onewire : lines.onewire.onewirePin ∈ lines.sensors := by
    simp [Lines.sensors]
  have dht11 : lines.dht11.dht11Pin ∈ lines.sensors := by
    simp [Lines.sensors]
  have onewireInPort := inPort _ (List.mem_append_right _ onewire)
  have dht11InPort := inPort _ (List.mem_append_right _ dht11)
  have lcdInPort : ∀ pin ∈ lines.lcd.toList, pin.toNat < 32 :=
    fun pin member => inPort pin (List.mem_append_left _ member)
  have lcdOthers : ∀ pin ∈ lines.lcd.toList, pin ∉ cleared :=
    fun pin member isCleared =>
      (List.nodup_append.mp valid.distinct).2.2 pin member pin
        (held.sensors pin isCleared) rfl
  refine ⟨?_, ?_, ?_⟩
  · cases call with
    | lcdInit type entryModeFlags onOffFlags =>
        exact HD44780.held_writeAll inputs lcdInPort lcdOthers held.port _
    | lcd call =>
        have kept := HD44780.held_writeAll inputs lcdInPort lcdOthers held.port
          (call.writes drivers.lcd)
        rw [← held.lcd] at kept
        exact kept
    | onewireInit =>
        exact Onewire.held_init held.port inputs onewireInPort onewire
    | onewireReset =>
        exact Onewire.held_reset inputs onewireInPort onewire
          (low _ List.mem_cons_self) held.port
    | onewireWriteByte byte =>
        exact Onewire.held_writeByte inputs onewireInPort onewire
          (low _ List.mem_cons_self) held.port byte
    | onewireReadByte =>
        exact Onewire.held_readByte inputs onewireInPort onewire
          (low _ List.mem_cons_self) held.port
    | requestConversion =>
        exact Onewire.held_requestConversion inputs onewireInPort onewire
          (low _ List.mem_cons_self) held.port
    | getTemperature =>
        exact Onewire.held_getTemperature inputs onewireInPort onewire
          (low _ List.mem_cons_self) held.port
    | dht11Init =>
        exact DHT11.held_init held.port inputs dht11InPort dht11
    | dht11GetMeasurement =>
        exact DHT11.held_getMeasurement inputs dht11InPort dht11
          (low _ List.mem_cons_self) held.port drivers.dataFrame
  · cases call with
    | lcdInit type entryModeFlags onOffFlags => rfl
    | _ => exact held.lcd
  · intro pin member
    rcases List.mem_append.mp member with new | old
    · exact mem_sensors_of_clears new
    · exact held.sensors pin old

/-- What any number of calls does to it. -/
theorem held_run (valid : lines.Valid)
    (inputs : ∀ pin ∈ lines.sensors, Port.isSet directions pin = false)
    {calls : List Call} (ordered : Ordered lines cleared calls)
    (held : Held lines directions cleared drivers) :
    ∃ nowCleared, Held lines directions nowCleared
      (run lines calls drivers) := by
  induction calls generalizing cleared drivers with
  | nil => exact ⟨cleared, held⟩
  | cons call calls induction =>
      exact induction ordered.2
        (held_perform valid inputs call ordered.1 held)

theorem ordered_of_cleared
    (low : ∀ pin ∈ lines.sensors, pin ∈ cleared) (calls : List Call) :
    Ordered lines cleared calls := by
  induction calls generalizing cleared with
  | nil => trivial
  | cons call calls induction =>
      refine ⟨?_, induction fun pin member =>
        List.mem_append_right _ (low pin member)⟩
      intro pin member
      apply low
      cases call <;> simp_all [drives, Lines.sensors]

theorem Ordered.earlier {performed calls : List Call}
    (ordered : Ordered lines cleared calls) (sofar : performed <+: calls) :
    Ordered lines cleared performed := by
  obtain ⟨rest, rfl⟩ := sofar
  induction performed generalizing cleared with
  | nil => trivial
  | cons call performed induction =>
      exact ⟨ordered.1, induction ordered.2⟩

theorem ordered_startup (lines : Lines) (type : Option HD44780.DisplayType)
    (entryModeFlags onOffFlags : UInt8) (calls : List Call) :
    Ordered lines []
      (startup type entryModeFlags onOffFlags ++ calls) := by
  refine ⟨?_, ?_, ?_, ordered_of_cleared ?_ calls⟩
  · simp [drives]
  · simp [drives]
  · simp [drives]
  · simp [clears, Lines.sensors]

end Held

theorem isSet_gpioSetup {lines : Lines} (valid : lines.Valid) (port : Port)
    (pin : UInt8) :
    Port.isSet (gpioSetup lines.lcd port).direction pin =
      decide (pin ∈ lines.lcd.toList) := by
  have inPort : ∀ pin ∈ lines.lcd.toList, pin.toNat < 32 := fun pin member =>
    Nat.lt_trans (valid.inPort pin (List.mem_append_left _ member)) (by decide)
  simp only [HD44780.Pins.toList, List.forall_mem_cons] at inPort
  obtain ⟨rs, e, d4, d5, d6, d7, -⟩ := inPort
  simp only [gpioSetup, Port.setConfig, Port.record, Port.isSet_or,
    Port.isSet_pinMask rs, Port.isSet_pinMask e, Port.isSet_pinMask d4,
    Port.isSet_pinMask d5, Port.isSet_pinMask d6, Port.isSet_pinMask d7]
  rw [Bool.eq_iff_iff]
  simp only [Bool.or_eq_true, decide_eq_true_eq, HD44780.Pins.toList,
    List.mem_cons, List.not_mem_nil, or_false]
  constructor <;> (intro member; tauto)

/-- Between two calls: the bus is released, the display driven, everything else
as it was, and the register agrees with the configuration. -/
structure Released (lines : Lines) (before after : Port) : Prop where
  sensors : ∀ pin ∈ lines.sensors, Port.isSet after.direction pin = false
  lcd : ∀ pin ∈ lines.lcd.toList, Port.isSet after.direction pin = true
  others : ∀ pin, pin ∉ lines.lcd.toList ++ lines.sensors →
    Port.isSet after.direction pin = Port.isSet before.direction pin
  register : after.direction = after.configDirection

section OpenDrain

variable {lines : Lines} (valid : lines.Valid) (before : Drivers)

include valid

theorem sensor_not_lcd {pin : UInt8} (sensor : pin ∈ lines.sensors) :
    pin ∉ lines.lcd.toList := fun member =>
  (List.nodup_append.mp valid.distinct).2.2 pin member pin sensor rfl

theorem inputs_setUp :
    ∀ pin ∈ lines.sensors,
      Port.isSet (setUp lines before).port.direction pin = false := by
  intro pin sensor
  rw [setUp, isSet_gpioSetup valid]
  exact decide_eq_false (sensor_not_lcd valid sensor)

theorem held_setUp :
    (setUp lines before).port.Held (setUp lines before).port.direction
      lines.sensors [] where
  configured := rfl
  applied := rfl
  low := by simp
  undriven := by
    have once : (setUp lines before).port.accesses =
        [((setUp lines before).port.direction, before.port.latch)] := rfl
    rw [once, List.forall_mem_singleton]
    exact Port.undriven_of_inputs (inputs_setUp valid before) _

theorem held_performed {type : Option HD44780.DisplayType}
    {entryModeFlags onOffFlags : UInt8} {calls performed : List Call}
    (sofar : performed <+: startup type entryModeFlags onOffFlags ++ calls) :
    ∃ cleared, (run lines performed (setUp lines before)).port.Held
      (setUp lines before).port.direction lines.sensors cleared := by
  have ordered := (ordered_startup lines type entryModeFlags onOffFlags
    calls).earlier sofar
  cases performed with
  | nil => exact ⟨[], held_setUp valid before⟩
  | cons call performed =>
      have first : call = .lcdInit type entryModeFlags onOffFlags :=
        (List.cons_prefix_cons.mp sofar).1
      subst first
      have initialised : Held lines (setUp lines before).port.direction []
          (perform lines { setUp lines before with lcd.pins := lines.lcd }
            (.lcdInit type entryModeFlags onOffFlags)) :=
        held_perform valid (inputs_setUp valid before) _ ordered.1
          ⟨held_setUp valid before, rfl, by simp⟩
      obtain ⟨cleared, held⟩ := held_run valid (inputs_setUp valid before)
        ordered.2 initialised
      exact ⟨cleared, held.port⟩

end OpenDrain

/-- Whatever is called and in whatever order, no sensor line is ever driven
high, and between two calls both are released. -/
theorem sensors_open_drain {lines : Lines} (valid : lines.Valid)
    (before : Drivers) (type : Option HD44780.DisplayType)
    (entryModeFlags onOffFlags : UInt8) {calls performed : List Call}
    (sofar : performed <+: startup type entryModeFlags onOffFlags ++ calls) :
    (∀ access ∈ (run lines performed (setUp lines before)).port.accesses,
        Port.Undriven lines.sensors access) ∧
      Released lines (setUp lines before).port
        (run lines performed (setUp lines before)).port := by
  obtain ⟨cleared, held⟩ := held_performed valid before sofar
  refine ⟨held.undriven, ?_, ?_, ?_, ?_⟩
  · rw [held.applied]
    exact inputs_setUp valid before
  · intro pin member
    rw [held.applied, setUp, isSet_gpioSetup valid]
    exact decide_eq_true member
  · intro pin _
    rw [held.applied]
  · rw [held.applied, held.configured]

/-- The station's own pins, with a reading taken and shown. -/
theorem sensors_open_drain_configured :
    Released .configured (setUp .configured ⟨Board.zeroed.port, .configured, ⟨0⟩⟩).port
      (run .configured
        (startup (some .display20x2) 0x02 0x04 ++
          [.requestConversion, .dht11GetMeasurement, .lcd (.writeChar 0x48),
            .getTemperature])
        (setUp .configured ⟨Board.zeroed.port, .configured, ⟨0⟩⟩)).port :=
  (sensors_open_drain Lines.configured_valid _ _ _ _
    (List.prefix_refl _)).2

end Drivers

end QuarkMeteoStation
