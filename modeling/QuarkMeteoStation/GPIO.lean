namespace QuarkMeteoStation

/-! The port all drivers share: the `gpio_config` of `main.c` and the registers
behind the `qm_gpio_*` calls. -/

inductive QmGpioState
  | low
  | high
  deriving DecidableEq, Repr

structure Port where
  /-- `gpio_config.direction`, the software copy. -/
  configDirection : UInt32
  /-- The hardware direction register. -/
  direction : UInt32
  /-- The output latch. -/
  latch : UInt32
  /-- What the line under examination shows at each read still to come. -/
  levels : Nat → QmGpioState
  reads : Nat
  /-- Direction and latch after every register access, latest first. -/
  accesses : List (UInt32 × UInt32)

namespace Port

def pinMask (pin : UInt8) : UInt32 :=
  1 <<< pin.toUInt32

def record (port : Port) : Port :=
  { port with accesses := (port.direction, port.latch) :: port.accesses }

def setConfig (port : Port) : Port :=
  { port with direction := port.configDirection }.record

def setPinState (port : Port) (pin : UInt8) (state : QmGpioState) : Port :=
  match state with
  | .high => { port with latch := port.latch ||| pinMask pin }.record
  | .low => { port with latch := port.latch &&& ~~~pinMask pin }.record

def clearPin (port : Port) (pin : UInt8) : Port :=
  { port with latch := port.latch &&& ~~~pinMask pin }.record

def readPin (port : Port) : QmGpioState × Port :=
  (port.levels port.reads, { port with reads := port.reads + 1 })

def setOutput (port : Port) (pin : UInt8) : Port :=
  { port with
    configDirection := port.configDirection ||| pinMask pin }.setConfig

def setInput (port : Port) (pin : UInt8) : Port :=
  { port with
    configDirection := port.configDirection &&& ~~~pinMask pin }.setConfig

@[simp] theorem levels_setOutput (port : Port) (pin : UInt8) :
    (port.setOutput pin).levels = port.levels := rfl

@[simp] theorem levels_setInput (port : Port) (pin : UInt8) :
    (port.setInput pin).levels = port.levels := rfl

@[simp] theorem reads_setOutput (port : Port) (pin : UInt8) :
    (port.setOutput pin).reads = port.reads := rfl

@[simp] theorem reads_setInput (port : Port) (pin : UInt8) :
    (port.setInput pin).reads = port.reads := rfl

/-- The line the port reads next shows these levels. -/
def Shows (port : Port) (samples : List QmGpioState) : Prop :=
  ∀ index level, samples[index]? = some level →
    port.levels (port.reads + index) = level

theorem Shows.left {port : Port} {first second : List QmGpioState}
    (shows : port.Shows (first ++ second)) : port.Shows first := by
  intro index level sampled
  apply shows
  rw [List.getElem?_append_left (List.getElem?_eq_some_iff.mp sampled).1]
  exact sampled

theorem Shows.right {port later : Port} {first second : List QmGpioState}
    (shows : port.Shows (first ++ second)) (levels : later.levels = port.levels)
    (reads : later.reads = port.reads + first.length) :
    later.Shows second := by
  intro index level sampled
  rw [levels, reads, Nat.add_assoc]
  apply shows
  rw [List.getElem?_append_right (by omega), Nat.add_sub_cancel_left]
  exact sampled

theorem Shows.readPin {port : Port} {level : QmGpioState}
    {samples : List QmGpioState} (shows : port.Shows (level :: samples)) :
    port.readPin.1 = level ∧ port.readPin.2.Shows samples := by
  have now : port.Shows [level] := Shows.left shows
  have later : port.readPin.2.Shows samples :=
    @Shows.right port _ [level] samples shows rfl rfl
  exact ⟨now 0 level rfl, later⟩

/-- A port the line of which shows these levels. -/
def showing (samples : List QmGpioState) : Port :=
  ⟨0, 0, 0, fun index => samples.getD index .high, 0, []⟩

theorem showing_shows (samples : List QmGpioState) :
    (showing samples).Shows samples := by
  intro index level sampled
  simp [showing, List.getD, sampled]

end Port

end QuarkMeteoStation
