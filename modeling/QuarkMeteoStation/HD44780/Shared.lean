import QuarkMeteoStation.Board.Lines

namespace QuarkMeteoStation

/-! The display's lines on a port that the sensors use as well: what the other
drivers do to the port is no pulse, and the lines stay driven. -/

namespace HD44780

open Port

/-- The six lines are outputs, and were at every access so far. -/
structure Driven (pins : Pins) (port : Port) : Prop where
  configured : ∀ pin ∈ pins.toList, isSet port.configDirection pin = true
  outputs : ∀ pin ∈ pins.toList, isSet port.direction pin = true
  accesses : ∀ access ∈ port.accesses, ∀ pin ∈ pins.toList,
    isSet access.1 pin = true

/-- The display has been shown these pulses so far. -/
structure Attached (pins : Pins) (pulses : List Pulse) (port : Port) : Prop
    extends Driven pins port where
  logged : Logged port
  edges : fallingEdges pins port.accesses = pulses

section Attached

variable {pins : Pins} {pulses : List Pulse} {port : Port} {pin : UInt8}

/-- A change of directions leaves the latch alone, and with it the lines. -/
theorem fallingEdges_record (logged : Logged port) (direction : UInt32) :
    fallingEdges pins ((direction, port.latch) :: port.accesses) =
      fallingEdges pins port.accesses := by
  cases log : port.accesses with
  | nil => rfl
  | cons head rest =>
      have current : head = (port.direction, port.latch) :=
        logged head (by rw [log]; rfl)
      rw [fallingEdges, current]
      simp

theorem Attached.setConfig (attached : Attached pins pulses port)
    {directions : UInt32}
    (outputs : ∀ pin ∈ pins.toList, isSet directions pin = true) :
    Attached pins pulses
      { port with configDirection := directions }.setConfig where
  logged := by
    simp [Logged, Port.setConfig, Port.record]
  edges := (fallingEdges_record attached.logged directions).trans
    attached.edges
  configured := outputs
  outputs := outputs
  accesses := by
    intro access member
    rcases List.mem_cons.mp member with rfl | earlier
    · exact outputs
    · exact attached.accesses access earlier

theorem Attached.setOutput (attached : Attached pins pulses port)
    (pin : UInt8) : Attached pins pulses (port.setOutput pin) := by
  apply attached.setConfig
  intro line member
  rw [isSet_or, attached.configured line member, Bool.true_or]

theorem Attached.setInput (attached : Attached pins pulses port)
    (inPort : pin.toNat < 32) (other : pin ∉ pins.toList) :
    Attached pins pulses (port.setInput pin) := by
  apply attached.setConfig
  intro line member
  have different : line ≠ pin := fun same => other (same ▸ member)
  rw [isSet_andNot, attached.configured line member,
    isSet_pinMask inPort, decide_eq_false different]
  rfl

theorem Attached.clearPin (attached : Attached pins pulses port)
    (inPort : pin.toNat < 32) (other : pin ∉ pins.toList) :
    Attached pins pulses (port.clearPin pin) where
  logged := by simp [Logged, Port.clearPin, Port.record]
  edges := by
    have apart : pins.e ≠ pin := by
      rintro rfl
      exact other (by simp [Pins.toList])
    have same : port.clearPin pin = port.setPinState pin .low := rfl
    rw [same, fallingEdges_of_other attached.logged inPort apart]
    exact attached.edges
  configured := attached.configured
  outputs := attached.outputs
  accesses := by
    intro access member
    rcases List.mem_cons.mp member with rfl | earlier
    · exact attached.outputs
    · exact attached.accesses access earlier

theorem Attached.readPin (attached : Attached pins pulses port) :
    Attached pins pulses port.readPin.2 where
  logged := attached.logged
  edges := attached.edges
  configured := attached.configured
  outputs := attached.outputs
  accesses := attached.accesses

/-- A slot on another line: pulled low, released. -/
theorem Attached.slot (attached : Attached pins pulses port)
    (inPort : pin.toNat < 32) (other : pin ∉ pins.toList) :
    Attached pins pulses ((port.setOutput pin).setInput pin) :=
  (attached.setOutput pin).setInput inPort other

theorem Driven.setPinState (driven : Driven pins port) (pin : UInt8)
    (state : QmGpioState) : Driven pins (port.setPinState pin state) where
  configured := by
    cases state <;> exact driven.configured
  outputs := by
    cases state <;> exact driven.outputs
  accesses := by
    have pushed : (port.setPinState pin state).accesses =
        (port.direction, (port.setPinState pin state).latch) ::
          port.accesses := by
      cases state <;> rfl
    rw [pushed]
    intro access member
    rcases List.mem_cons.mp member with rfl | earlier
    · exact driven.outputs
    · exact driven.accesses access earlier

theorem Driven.nibble (driven : Driven pins port) (d7 d6 d5 d4 : QmGpioState) :
    Driven pins (pulseEnable pins (setNibble pins d7 d6 d5 d4 port)) :=
  (((((driven.setPinState _ d7).setPinState _ d6).setPinState _ d5).setPinState
    _ d4).setPinState _ .high).setPinState _ .low

theorem Driven.writeAll (driven : Driven pins port) (writes : List Write) :
    Driven pins (writeAll pins writes port) := by
  induction writes generalizing port with
  | nil => exact driven
  | cons write writes induction =>
      exact induction (((driven.setPinState _ _).nibble _ _ _ _).nibble _ _ _ _)

theorem logged_writeAll (valid : pins.Valid) (logged : Logged port)
    (writes : List Write) : Logged (writeAll pins writes port) := by
  induction writes generalizing port with
  | nil => exact logged
  | cons write writes induction =>
      exact induction (fallingEdges_writeByte valid logged write).2

/-- Bytes written add their own pulses and no other. -/
theorem Attached.writeAll (attached : Attached pins pulses port)
    (valid : pins.Valid) (writes : List Write) :
    Attached pins (pulses ++ writes.flatMap pulsesOf)
      (writeAll pins writes port) where
  toDriven := attached.toDriven.writeAll writes
  logged := logged_writeAll valid attached.logged writes
  edges := by
    rw [fallingEdges_writeAll valid attached.logged, attached.edges]

end Attached

end HD44780

/-- What a driver that only pulls its line low, releases and samples it leaves
in place. -/
structure Port.Unaffected (pin : UInt8) (Invariant : Port → Prop) : Prop where
  slot : ∀ {port : Port}, Invariant port →
    Invariant ((port.setOutput pin).setInput pin)
  readPin : ∀ {port : Port}, Invariant port → Invariant port.readPin.2

section Unaffected

variable {Invariant : Port → Prop} {port : Port}

namespace Onewire

variable {config : Config}
variable (unaffected : Port.Unaffected config.onewirePin Invariant)

include unaffected

theorem unaffected_reset (invariant : Invariant port) :
    Invariant (reset config port).2 :=
  unaffected.readPin (unaffected.slot invariant)

theorem unaffected_writeByte (invariant : Invariant port) (byte : UInt8) :
    Invariant (writeByte config byte port) := by
  have loop (remaining : Nat) : ∀ (byte : UInt8) (port : Port),
      Invariant port →
      Invariant (writeByteLoop config remaining byte port) := by
    induction remaining with
    | zero => exact fun _ _ invariant => invariant
    | succ remaining induction =>
        intro byte port invariant
        exact induction _ _ (unaffected.slot invariant)
  exact loop 8 byte port invariant

theorem unaffected_readByte (invariant : Invariant port) :
    Invariant (readByte config port).2 := by
  have loop (remaining : Nat) : ∀ (byte : UInt8) (port : Port),
      Invariant port →
      Invariant (readByteLoop config remaining byte port).2 := by
    induction remaining with
    | zero => exact fun _ _ invariant => invariant
    | succ remaining induction =>
        intro byte port invariant
        exact induction _ _ (unaffected.readPin (unaffected.slot invariant))
  exact loop 8 0 port invariant

theorem unaffected_requestConversion (invariant : Invariant port) :
    Invariant (DS18B20.requestConversion config port) :=
  unaffected_writeByte unaffected
    (unaffected_writeByte unaffected
      (unaffected_reset unaffected invariant) _) _

theorem unaffected_getTemperature (invariant : Invariant port) :
    Invariant (DS18B20.getTemperature config port).2 := by
  have addressed := unaffected_writeByte unaffected
    (unaffected_writeByte unaffected (unaffected_reset unaffected invariant)
      DS18B20.Command.skipRom.code)
    DS18B20.Command.readScratchpad.code
  exact unaffected_readByte unaffected
    (unaffected_readByte unaffected addressed)

end Onewire

namespace DHT11

variable {config : Config}
variable (unaffected : Port.Unaffected config.dht11Pin Invariant)

include unaffected

theorem unaffected_synchroLoop (timeout : Nat) (response : QmGpioState) :
    ∀ port, Invariant port →
      Invariant (synchroLoop timeout response port) := by
  induction timeout generalizing response with
  | zero => exact fun _ invariant => invariant
  | succ timeout induction =>
      intro port invariant
      rw [synchroLoop]
      split
      · exact induction _ _ (unaffected.readPin invariant)
      · exact invariant

theorem unaffected_readBits (remaining : Nat) :
    ∀ (frame : DataFrame) (port : Port), Invariant port →
      Invariant (readBits remaining frame port).2 := by
  induction remaining with
  | zero => exact fun _ _ invariant => invariant
  | succ remaining induction =>
      intro frame port invariant
      have sampled := unaffected.readPin invariant
      rw [readBits]
      dsimp only [Port.readPin] at sampled ⊢
      split
      · exact induction _ _
          (unaffected_synchroLoop unaffected _ _ _ sampled)
      · exact induction _ _ sampled

theorem unaffected_getMeasurement (invariant : Invariant port)
    (frame : DataFrame) :
    Invariant (getMeasurement config frame port).2.2 := by
  have afterReset : Invariant (reset config port).2 :=
    unaffected.readPin (unaffected.slot invariant)
  unfold getMeasurement readDataFrame
  cases answer : reset config port with
  | mk response afterwards =>
      rw [answer] at afterReset
      cases response with
      | absent => exact afterReset
      | present =>
          have read := unaffected_readBits unaffected frameLength frame
            afterwards afterReset
          dsimp only
          split <;> exact read

end DHT11

end Unaffected

namespace HD44780

theorem attached_unaffected {pins : Pins} {pin : UInt8}
    (inPort : pin.toNat < 32) (other : pin ∉ pins.toList)
    (pulses : List Pulse) :
    Port.Unaffected pin (Attached pins pulses) where
  slot := fun attached => attached.slot inPort other
  readPin := fun attached => attached.readPin

end HD44780

end QuarkMeteoStation
