import QuarkMeteoStation.DS18B20.Registers
import QuarkMeteoStation.Onewire.Slots

namespace QuarkMeteoStation

open Library

/-! The thermometer at the other end of the bus, and what the driver reads from
it over any sequence of calls. -/

namespace DS18B20

open Onewire

abbrev Register := { register : Int // -2047 ≤ register ∧ register ≤ 2047 }

def Command.bits (command : Command) : List Bool :=
  Onewire.bits 8 command.code.toNat

inductive Mode
  /-- Until the next reset. -/
  | waiting
  | romCommand (received : List Bool)
  | functionCommand (received : List Bool)
  | transmitting (left : List Bool)
  deriving DecidableEq, Repr

structure Slave where
  mode : Mode
  register : Register
  /-- The scratchpad behind the temperature register. -/
  rest : List Bool
  converting : Bool

namespace Slave

def execute (slave : Slave) (received : List Bool) : Slave :=
  if received = Command.convertT.bits then
    { slave with mode := .waiting, converting := true }
  else if received = Command.readScratchpad.bits then
    { slave with
      mode := .transmitting (Onewire.bits 16 (word slave.register) ++
        slave.rest) }
  else { slave with mode := .waiting }

def receive (slave : Slave) (bit : Bool) : Slave :=
  match slave.mode with
  | .romCommand received =>
      let received := received ++ [bit]
      if received.length < 8 then
        { slave with mode := .romCommand received }
      else if received = Command.skipRom.bits then
        { slave with mode := .functionCommand [] }
      else { slave with mode := .waiting }
  | .functionCommand received =>
      let received := received ++ [bit]
      if received.length < 8 then
        { slave with mode := .functionCommand received }
      else slave.execute received
  | _ => slave

def gives (slave : Slave) : Option Bool :=
  match slave.mode with
  | .transmitting left => left.head?
  | _ => none

def given (slave : Slave) : Slave :=
  match slave.mode with
  | .transmitting left => { slave with mode := .transmitting left.tail }
  | _ => slave

def finishConversion (slave : Slave) (register : Register) : Slave :=
  if slave.converting then
    { slave with register := register, converting := false }
  else slave

def device : Device Slave Register where
  reset := fun slave => { slave with mode := .romCommand [] }
  received := receive
  gives := gives
  given := given
  confused := fun slave => { slave with mode := .waiting }
  occur := finishConversion
  reset_confused := fun _ => rfl

end Slave

section Slots

variable {clock : Clock} {timing : Timing}
variable (compatible : Compatible clock timing)

theorem gives_transmitting (slave : Slave) (bits left : List Bool) :
    Gives Slave.device { slave with mode := .transmitting (bits ++ left) }
      bits := by
  induction bits with
  | nil => trivial
  | cons bit bits induction => exact ⟨rfl, induction⟩

theorem given_transmitting (slave : Slave) (bits left : List Bool) :
    Slave.device.given^[bits.length]
        { slave with mode := .transmitting (bits ++ left) } =
      { slave with mode := .transmitting left } := by
  induction bits with
  | nil => rfl
  | cons bit bits induction => exact induction

include compatible

theorem slots_skipRom (slave : Slave) :
    Slots clock timing Slave.device (writeByteScript Command.skipRom.code)
      { slave with mode := .romCommand [] }
      { slave with mode := .functionCommand [] } [] := by
  rw [writeByteScript_eq]
  refine slots_writeBits compatible Command.skipRom.bits ?_
  exact ⟨rfl, rfl, rfl, rfl, rfl, rfl, rfl, rfl, trivial⟩

theorem slots_convertT (slave : Slave) :
    Slots clock timing Slave.device (writeByteScript Command.convertT.code)
      { slave with mode := .functionCommand [] }
      { slave with mode := .waiting, converting := true } [] := by
  rw [writeByteScript_eq]
  refine slots_writeBits compatible Command.convertT.bits ?_
  exact ⟨rfl, rfl, rfl, rfl, rfl, rfl, rfl, rfl, trivial⟩

theorem slots_readScratchpad (slave : Slave) :
    Slots clock timing Slave.device
      (writeByteScript Command.readScratchpad.code)
      { slave with mode := .functionCommand [] }
      { slave with
        mode := .transmitting (Onewire.bits 16 (word slave.register) ++
          slave.rest) } [] := by
  rw [writeByteScript_eq]
  refine slots_writeBits compatible Command.readScratchpad.bits ?_
  exact ⟨rfl, rfl, rfl, rfl, rfl, rfl, rfl, rfl, trivial⟩

omit compatible in
theorem readBytes_eq :
    (List.replicate 16 readBitScript).flatten =
      readByteScript ++ readByteScript := by
  rw [readByteScript, ← List.flatten_append, ← List.replicate_add]

/-- The two bytes the driver reads are the bits of the register. -/
theorem slots_register (legible : clock.latestLook < timing.holdFor)
    (slave : Slave) :
    Slots clock timing Slave.device (readByteScript ++ readByteScript)
      { slave with
        mode := .transmitting (Onewire.bits 16 (word slave.register) ++
          slave.rest) }
      { slave with mode := .transmitting slave.rest }
      ((Onewire.bits 16 (word slave.register)).map levelOf) := by
  have slots := slots_readBits compatible legible
    (Onewire.bits 16 (word slave.register))
    (gives_transmitting slave _ slave.rest)
  rw [given_transmitting, length_bits, readBytes_eq] at slots
  exact slots

theorem exec_requestConversion {bus : Bus Slave}
    (input : bus.direction = .input) {inputs : List (Input Register)}
    (performs : Performs clock requestConversionScript inputs) :
    Settled clock timing
        { bus.state with mode := .waiting, converting := true }
        ((Bus.machine timing Slave.device).exec bus inputs) ∧
      ∃ presence, (Bus.machine timing Slave.device).trace bus inputs =
        [presence] := by
  rw [requestConversionScript, List.append_assoc] at performs
  obtain ⟨_, _, rfl, resetting, commanding⟩ := performs_append performs
  obtain ⟨found, presence, sampled⟩ :=
    @exec_reset _ _ _ _ Slave.device compatible bus input _ resetting
  obtain ⟨settled, samples⟩ := ((slots_skipRom compatible bus.state).append
    (slots_convertT compatible bus.state)).run _ _ found commanding
  rw [Machine.exec_append, Machine.trace_append, sampled, samples]
  exact ⟨settled, presence, rfl⟩

theorem exec_getTemperature (legible : clock.latestLook < timing.holdFor)
    {bus : Bus Slave} (input : bus.direction = .input)
    {inputs : List (Input Register)}
    (performs : Performs clock getTemperatureScript inputs) :
    Settled clock timing
        { bus.state with mode := .transmitting bus.state.rest }
        ((Bus.machine timing Slave.device).exec bus inputs) ∧
      ∃ presence, (Bus.machine timing Slave.device).trace bus inputs =
        presence ::
          (Onewire.bits 16 (word bus.state.register)).map levelOf := by
  simp only [getTemperatureScript, List.append_assoc] at performs
  obtain ⟨_, _, rfl, resetting, commanding⟩ := performs_append performs
  obtain ⟨found, presence, sampled⟩ :=
    @exec_reset _ _ _ _ Slave.device compatible bus input _ resetting
  obtain ⟨settled, samples⟩ := ((slots_skipRom compatible bus.state).append
    ((slots_readScratchpad compatible bus.state).append
      (slots_register compatible legible bus.state))).run _ _ found commanding
  rw [Machine.exec_append, Machine.trace_append, sampled, samples]
  exact ⟨settled, presence, rfl⟩

end Slots

/-- What a thermometer is to its user. -/
structure Thermometer where
  register : Register
  converting : Bool

inductive Call
  | requestConversion
  | getTemperature
  /-- The thermometer finishes a conversion. -/
  | converted (register : Register)

namespace Thermometer

def step (thermometer : Thermometer) : Call → Thermometer
  | .requestConversion => { thermometer with converting := true }
  | .getTemperature => thermometer
  | .converted register =>
      if thermometer.converting then ⟨register, false⟩ else thermometer

def output (thermometer : Thermometer) : Call → Option DS18B20Meas
  | .getTemperature => some (trueReading thermometer.register)
  | _ => none

def machine : Machine Thermometer Call DS18B20Meas where
  start := fun _ => True
  step := step
  output := output

/-- The driver's negation of what is read loses no carry. -/
def Kept (thermometer : Thermometer) : Call → Prop
  | .getTemperature => ¬Carries thermometer.register
  | _ => True

end Thermometer

def Slave.thermometer (slave : Slave) : Thermometer :=
  ⟨slave.register, slave.converting⟩

theorem Slave.thermometer_finishConversion (slave : Slave)
    (register : Register) :
    (slave.finishConversion register).thermometer =
      slave.thermometer.step (.converted register) := by
  unfold finishConversion
  cases converting : slave.converting with
  | true => simp [thermometer, Thermometer.step, converting]
  | false => simp [thermometer, Thermometer.step, converting]

/-- The calls of the driver on the port. -/
def driver (config : Onewire.Config) : Machine Port Call DS18B20Meas where
  start := fun _ => True
  step := fun port call =>
    match call with
    | .requestConversion => requestConversion config port
    | .getTemperature => (getTemperature config port).2
    | .converted _ => port
  output := fun port call =>
    match call with
    | .getTemperature => some (getTemperature config port).1
    | _ => none

/-- What a call is on the bus, after the program did something else. -/
def Call.Runs (clock : Clock) (call : Call) (inputs : List (Input Register)) :
    Prop :=
  match call with
  | .requestConversion => ∃ idle rest, inputs = .idle idle :: rest ∧
      Performs clock requestConversionScript rest
  | .getTemperature => ∃ idle rest, inputs = .idle idle :: rest ∧
      Performs clock getTemperatureScript rest
  | .converted register => inputs = [.occurrence register]

end DS18B20

namespace Onewire

theorem perform_frame (config : Config) (script : List Act) (port : Port) :
    (script.foldl (Act.perform config) port).levels = port.levels ∧
      (script.foldl (Act.perform config) port).reads =
        port.reads + script.count .readPin := by
  induction script generalizing port with
  | nil => exact ⟨rfl, rfl⟩
  | cons act script induction =>
      obtain ⟨levels, reads⟩ := induction (act.perform config port)
      rw [List.foldl_cons, levels, reads]
      cases act with
      | readPin =>
          refine ⟨rfl, ?_⟩
          rw [List.count_cons_self]
          simp only [Act.perform, Port.readPin]
          omega
      | pinSetDirection direction => simp [Act.perform]
      | udelay => simp [Act.perform]

end Onewire

namespace DS18B20

open Onewire

section Session

variable {clock : Clock} {timing : Timing}

/-- A call leaves the bus ready for the next, and driver and thermometer in
agreement. -/
structure Answered (timing : Timing) (config : Onewire.Config) (port : Port)
    (bus : Bus Slave) (call : Call) (inputs : List (Input Register)) :
    Prop where
  direction : ((Bus.machine timing Slave.device).exec bus inputs).direction =
    .input
  thermometer :
    ((Bus.machine timing Slave.device).exec bus inputs).state.thermometer =
      bus.state.thermometer.step call
  levels : ((driver config).step port call).levels = port.levels
  reads : ((driver config).step port call).reads = port.reads +
    ((Bus.machine timing Slave.device).trace bus inputs).length
  output : (driver config).output port call =
    bus.state.thermometer.output call

variable (compatible : Compatible clock timing)

include compatible

theorem answered_requestConversion (config : Onewire.Config) (port : Port)
    {bus : Bus Slave} (input : bus.direction = .input)
    {inputs : List (Input Register)}
    (performed : Call.requestConversion.Runs clock inputs) :
    Answered timing config port bus .requestConversion inputs := by
  obtain ⟨idle, inputs, rfl, performs⟩ := performed
  have waited : (bus.wait idle).direction = .input := by
    simp [Bus.wait, input]
  have untouched : (bus.wait idle).state = bus.state := by
    simp [Bus.wait, input]
  obtain ⟨settled, presence, sampled⟩ :=
    exec_requestConversion compatible waited performs
  obtain ⟨levels, reads⟩ := perform_frame config requestConversionScript port
  rw [perform_requestConversion] at levels reads
  refine ⟨settled.direction, ?_, levels, ?_, rfl⟩
  · rw [Machine.exec_cons]
    refine (congrArg Slave.thermometer settled.state).trans ?_
    rw [untouched]
    rfl
  · rw [Machine.trace_cons]
    exact reads.trans (congrArg (port.reads + ·) (by
      rw [Bus.machine_step, Bus.step, sampled]
      rfl))

theorem answered_getTemperature (legible : clock.latestLook < timing.holdFor)
    (config : Onewire.Config) {port : Port} {bus : Bus Slave}
    (input : bus.direction = .input)
    (kept : ¬Carries bus.state.register) {inputs : List (Input Register)}
    (performed : Call.getTemperature.Runs clock inputs)
    (shows : port.Shows
      ((Bus.machine timing Slave.device).trace bus inputs)) :
    Answered timing config port bus .getTemperature inputs := by
  obtain ⟨idle, inputs, rfl, performs⟩ := performed
  have waited : (bus.wait idle).direction = .input := by
    simp [Bus.wait, input]
  have untouched : (bus.wait idle).state = bus.state := by
    simp [Bus.wait, input]
  obtain ⟨settled, presence, sampled⟩ :=
    exec_getTemperature compatible legible waited performs
  rw [untouched] at settled sampled
  have samples : (Bus.machine timing Slave.device).trace bus
      (.idle idle :: inputs) =
        presence ::
          (Onewire.bits 16 (word bus.state.register)).map levelOf := sampled
  obtain ⟨levels, reads⟩ := perform_frame config getTemperatureScript port
  rw [perform_getTemperature] at levels reads
  refine ⟨settled.direction, ?_, levels, ?_, ?_⟩
  · exact (congrArg Slave.thermometer settled.state).trans rfl
  · refine reads.trans ?_
    rw [samples, List.length_cons, List.length_map, length_bits]
    rfl
  · have transmitted : ∀ slot < 16, port.levels (port.reads + 1 + slot) =
        bitLevel (word bus.state.register) slot := by
      intro slot bound
      rw [Nat.add_assoc]
      apply shows
      rw [samples, Nat.add_comm 1 slot, List.getElem?_cons_succ]
      simp [Onewire.bits, bound, levelOf, bitLevel]
    have read := getTemperature_of_transmitted config port
      (word bus.state.register) transmitted
    rw [decode_word bus.state.register.property, decodedMagnitude,
      if_neg kept] at read
    exact congrArg some read

theorem answered_of_runs (legible : clock.latestLook < timing.holdFor)
    (config : Onewire.Config) {port : Port} {bus : Bus Slave}
    (input : bus.direction = .input) {call : Call}
    (kept : bus.state.thermometer.Kept call) {inputs : List (Input Register)}
    (performed : call.Runs clock inputs)
    (shows : port.Shows
      ((Bus.machine timing Slave.device).trace bus inputs)) :
    Answered timing config port bus call inputs := by
  cases call with
  | requestConversion =>
      exact answered_requestConversion compatible config port input performed
  | getTemperature =>
      exact answered_getTemperature compatible legible config input kept
        performed shows
  | converted register =>
      obtain rfl := performed
      exact ⟨input, bus.state.thermometer_finishConversion register, rfl, rfl,
        rfl⟩

theorem readings_of_session (legible : clock.latestLook < timing.holdFor)
    (config : Onewire.Config) {calls : List Call}
    {runs : List (List (Input Register))}
    (performed : List.Forall₂ (Call.Runs clock) calls runs) {bus : Bus Slave}
    (input : bus.direction = .input)
    (kept : Thermometer.machine.Along Thermometer.Kept bus.state.thermometer
      calls) {port : Port}
    (shows : port.Shows
      ((Bus.machine timing Slave.device).trace bus runs.flatten)) :
    (driver config).trace port calls =
      Thermometer.machine.trace bus.state.thermometer calls := by
  induction performed generalizing bus port with
  | nil => rfl
  | @cons call inputs calls runs performed rest induction =>
      rw [List.flatten_cons, Machine.trace_append] at shows
      have answered := answered_of_runs compatible legible config input kept.1
        performed shows.left
      have remaining : Thermometer.machine.Along Thermometer.Kept
          (bus.state.thermometer.step call) calls := kept.2
      rw [← answered.thermometer] at remaining
      have later := induction answered.direction remaining
        (shows.right answered.levels answered.reads)
      rw [Machine.trace_cons, Machine.trace_cons, answered.output, later,
        answered.thermometer]
      rfl

/-- A thermometer at zero degrees. -/
def frozen : Bus Slave :=
  ⟨⟨.waiting, ⟨0, by decide⟩, [], false⟩, .input, 0, 0, false⟩

theorem trace_late_getTemperature
    (illegible : timing.holdFor ≤ clock.latestLook) :
    ∃ presence, (Bus.machine timing Slave.device).trace frozen
        (.idle 0 :: late clock getTemperatureScript) =
      presence :: List.replicate 16 .high := by
  have input : (frozen.wait 0).direction = .input := rfl
  obtain ⟨found, presence, sampled⟩ := @exec_reset _ _ _ _ Slave.device
    compatible _ input _ (performs_late resetScript)
  obtain ⟨settled, samples⟩ :=
    ((slots_skipRom compatible (frozen.wait 0).state).append
      (slots_readScratchpad compatible (frozen.wait 0).state)).run _ _ found
      (performs_late _)
  obtain ⟨-, read⟩ := exec_late_readBits compatible illegible
    (Onewire.bits 16 (word 0))
    (gives_transmitting (frozen.wait 0).state _ []) settled
  refine ⟨presence, ?_⟩
  have split : (late clock getTemperatureScript : List (Input Register)) =
      late clock resetScript ++
        (late clock (writeByteScript Command.skipRom.code ++
          writeByteScript Command.readScratchpad.code) ++
        late clock (readByteScript ++ readByteScript)) := by
    simp only [getTemperatureScript, late, List.map_append, List.append_assoc]
  have waited : (Bus.machine timing Slave.device).step frozen (.idle 0) =
      frozen.wait 0 := rfl
  have silent : (Bus.machine timing Slave.device).output frozen (.idle 0) =
      none := rfl
  rw [length_bits, readBytes_eq] at read
  rw [Machine.trace_cons, waited, silent, split, Machine.trace_append,
    Machine.trace_append, sampled, samples, read]
  rfl

/-- Over any sequence of calls, whatever the program does in between, every
reading is that of the latest conversion, as long as the registers read carry
nothing, if and only if a zero is held for longer than the driver may be late. -/
theorem readings_of_session_iff :
    (∀ (config : Onewire.Config) (calls : List Call)
      (runs : List (List (Input Register))) (bus : Bus Slave) (port : Port),
      List.Forall₂ (Call.Runs clock) calls runs → bus.direction = .input →
      Thermometer.machine.Along Thermometer.Kept bus.state.thermometer calls →
      port.Shows
        ((Bus.machine timing Slave.device).trace bus runs.flatten) →
      (driver config).trace port calls =
        Thermometer.machine.trace bus.state.thermometer calls) ↔
      clock.latestLook < timing.holdFor := by
  constructor
  · intro faithful
    by_contra illegible
    obtain ⟨presence, samples⟩ :=
      trace_late_getTemperature compatible (Nat.le_of_not_lt illegible)
    have equal := faithful ⟨14⟩ [.getTemperature]
      [.idle 0 :: late clock getTemperatureScript] frozen
      (Port.showing (presence :: List.replicate 16 .high))
      (.cons ⟨0, _, rfl, performs_late _⟩ .nil) rfl
      ⟨(by decide : ¬Carries 0), trivial⟩ (by
        rw [List.flatten_singleton, samples]
        exact Port.showing_shows _)
    have read := getTemperature_of_transmitted ⟨14⟩
      (Port.showing (presence :: List.replicate 16 .high)) 65535 (by
        intro slot bound
        have set : Nat.testBit 65535 slot = true := by
          rw [show 65535 = 2 ^ 16 - 1 by rfl, Nat.testBit_two_pow_sub_one]
          exact decide_eq_true bound
        simp [Port.showing, Nat.add_comm 1 slot, bitLevel, set,
          -List.reduceReplicate, bound])
    have claimed : (getTemperature ⟨14⟩
        (Port.showing (presence :: List.replicate 16 .high))).1 =
          trueReading 0 := by
      exact (List.cons.inj equal).1
    rw [read] at claimed
    exact absurd claimed (by decide)
  · intro legible config calls runs bus port performed input kept shows
    exact readings_of_session compatible legible config performed input kept
      shows

end Session

def typicalClock : Clock :=
  ⟨32, 32, 16⟩

/-- A thermometer that looks at the line after 30 us and holds it for 15. -/
def typicalTiming : Timing :=
  ⟨960, 480, 1920, 32, 15360, 480, 9600, by decide, by decide⟩

theorem typical_compatible : Compatible typicalClock typicalTiming :=
  ⟨by decide, by decide, by decide, by decide, by decide, by decide,
    by decide⟩

def frostCalls : List Call :=
  [.requestConversion, .converted ⟨-8, by decide⟩, .getTemperature]

def frostRuns : List (List (Input Register)) :=
  [.idle 5000 :: late typicalClock requestConversionScript,
    [.occurrence ⟨-8, by decide⟩],
    .idle 32000000 :: late typicalClock getTemperatureScript]

/-- Half a degree of frost, read as late as may be. -/
theorem readings_of_session_iff_frost :
    (driver ⟨14⟩).trace
        (Port.showing ((Bus.machine typicalTiming Slave.device).trace frozen
          frostRuns.flatten)) frostCalls =
      [⟨.negative, 0, 50⟩] :=
  (readings_of_session_iff typical_compatible).mpr (by decide) ⟨14⟩ frostCalls
    frostRuns frozen _
    (.cons ⟨_, _, rfl, performs_late _⟩
      (.cons rfl (.cons ⟨_, _, rfl, performs_late _⟩ .nil)))
    rfl ⟨trivial, trivial, (by decide : ¬Carries (-8)), trivial⟩
    (Port.showing_shows _)

end DS18B20

end QuarkMeteoStation
