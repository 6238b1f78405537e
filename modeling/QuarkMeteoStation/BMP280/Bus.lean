import QuarkMeteoStation.BMP280
import QuarkMeteoStation.I2C.Refusals
import QuarkMeteoStation.I2C.Returns

namespace QuarkMeteoStation

open Library

namespace I2C

/-! A slave that is a file of registers, and what the barometer's registers come
to in a measurement. -/

structure RegisterFile where
  registers : UInt8 → UInt8
  pointer : UInt8
  /-- The next byte written is the address of a register. -/
  addressed : Bool

/-- Reading moves the pointer on; `store` says what further bytes written do. -/
def registerFile (store : RegisterFile → UInt8 → RegisterFile) :
    Slave RegisterFile where
  notice := fun file event =>
    match event with
    | .start .write => { file with addressed := true }
    | .sent byte =>
        if file.addressed then { file with pointer := byte, addressed := false }
        else store file byte
    | .received _ => { file with pointer := file.pointer + 1 }
    | _ => file
  offers := fun file => file.registers file.pointer

section RegisterFile

variable {store : RegisterFile → UInt8 → RegisterFile}

def RegisterFile.at (file : RegisterFile) (index : Nat) : UInt8 :=
  file.registers (file.pointer + UInt8.ofNat index)

theorem RegisterFile.at_succ (file : RegisterFile) (index : Nat) :
    { file with pointer := file.pointer + 1 }.at index = file.at (index + 1) := by
  have next : file.pointer + 1 + UInt8.ofNat index =
      file.pointer + UInt8.ofNat (index + 1) := by
    rw [UInt8.ofNat_add, UInt8.add_assoc, UInt8.add_comm 1]
    rfl
  exact congrArg file.registers next

theorem command_read (wire : Wire RegisterFile) (stop : Bool) :
    (wire.command (registerFile store) (.read stop)).memory =
        { wire.memory with pointer := wire.memory.pointer + 1 } ∧
      received (wire.commandEvents (registerFile store) (.read stop)) =
        [wire.memory.registers wire.memory.pointer] := by
  have started :
      (wire.start (registerFile store) .read).memory = wire.memory := by
    unfold Wire.start
    split <;> rfl
  refine ⟨?_, ?_⟩
  · have data := congrArg
      (fun file : RegisterFile => { file with pointer := file.pointer + 1 })
      started
    unfold Wire.command Wire.finish
    split
    · exact data
    · exact data
  · have begins : received (wire.startEvents .read) = [] := by
      unfold Wire.startEvents
      split <;> rfl
    have ends : received (Wire.finishEvents stop) = [] := by
      unfold Wire.finishEvents
      split <;> rfl
    have shown : received [Event.received
        ((registerFile store).offers
          (wire.start (registerFile store) .read).memory)] =
          [wire.memory.registers wire.memory.pointer] := by
      rw [started]
      rfl
    have split : wire.commandEvents (registerFile store) (.read stop) =
        wire.startEvents .read ++ ([Event.received
          ((registerFile store).offers
            (wire.start (registerFile store) .read).memory)] ++
          Wire.finishEvents stop) := rfl
    rw [split, received_append, received_append, begins, ends, shown]
    rfl

theorem events_readCommands (len : Nat) (stop : Bool)
    (wire : Wire RegisterFile) :
    received (wire.events (registerFile store) (readCommands len stop)) =
        (List.range len).map wire.memory.at ∧
      (wire.commands (registerFile store) (readCommands len stop)).memory =
        { wire.memory with
          pointer := wire.memory.pointer + UInt8.ofNat len } := by
  induction len generalizing wire with
  | zero => simp [readCommands, Wire.events, Wire.commands, received]
  | succ len induction =>
      obtain ⟨memory, byte⟩ := @command_read store wire
        (decide (len = 0) && stop)
      obtain ⟨bytes, final⟩ := induction
        (wire.command (registerFile store) (.read (decide (len = 0) && stop)))
      rw [memory] at bytes final
      refine ⟨?_, ?_⟩
      · rw [readCommands, Wire.events, received_append, byte, bytes,
          List.range_succ_eq_map, List.map_cons, List.map_map,
          List.singleton_append]
        refine congrArg₂ List.cons ?_ ?_
        · simp [RegisterFile.at]
        · apply List.map_congr_left
          intro index _
          exact wire.memory.at_succ index
      · have next : wire.memory.pointer + 1 + UInt8.ofNat len =
            wire.memory.pointer + UInt8.ofNat (len + 1) := by
          rw [UInt8.ofNat_add, UInt8.add_assoc, UInt8.add_comm 1]
          rfl
        rw [readCommands, Wire.commands, List.foldl_cons]
        refine final.trans ?_
        simp only [next]

theorem command_address (wire : Wire RegisterFile) (regAddr : UInt8)
    (free : wire.direction = none) :
    (wire.command (registerFile store) (.write regAddr false)).memory =
        { wire.memory with pointer := regAddr, addressed := false } ∧
      received (wire.commandEvents (registerFile store)
        (.write regAddr false)) = [] := by
  simp [Wire.command, Wire.commandEvents, Wire.start, Wire.startEvents, free,
    Wire.data, Wire.dataEvent, Wire.finish, Wire.finishEvents, registerFile,
    Command.direction, Command.stop, received]

theorem direction_readCommands (wire : Wire RegisterFile) (len : Nat)
    (several : 0 < len) :
    (wire.commands (registerFile store)
      (readCommands len true)).direction = none := by
  induction len generalizing wire with
  | zero => exact absurd several (Nat.lt_irrefl 0)
  | succ len induction =>
      rw [readCommands, Wire.commands, List.foldl_cons]
      cases len with
      | zero => simp [readCommands, Wire.command, Wire.finish, Command.stop]
      | succ len => exact induction _ (Nat.succ_pos len)

variable {controller : Controller RegisterFile} {regAddr : UInt8}
variable {size : Nat}
variable (access : Access (registerFile store) controller regAddr
  (.read size true))
variable (ready : Ready controller) (acked : access.Acked)
variable (several : 0 < size)

include ready acked several

theorem received_registers :
    access.transfer.masterRead.received =
      (List.range size).map fun index =>
        controller.memory.registers (regAddr + UInt8.ofNat index) := by
  obtain ⟨memory, silent⟩ := @command_address store controller.wire regAddr
    ready.direction
  obtain ⟨bytes, -⟩ := @events_readCommands store size true
    (controller.wire.command (registerFile store) (.write regAddr false))
  rw [access.received_eq ready acked several, Wire.events, received_append,
    silent, List.nil_append, bytes, memory]
  rfl

omit several in
theorem ready_of_succeeded (succeeds : access.transfer.masterRead.status = 0)
    (several : 0 < size) :
    Ready access.second.controller ∧
      access.second.controller.memory.registers =
        controller.memory.registers := by
  have begins := access.read_begins ready.addressed acked
  obtain ⟨-, wire, enable, enabled, rxEmpty, empty, still⟩ :=
    access.line_of_succeeded ready acked several begins rfl rfl succeeds
  have asserts := access.asserts_second acked several begins
  obtain ⟨memory, -⟩ := @command_address store controller.wire regAddr
    ready.direction
  obtain ⟨-, final⟩ := @events_readCommands store size true
    (controller.wire.command (registerFile store) (.write regAddr false))
  have free := @direction_readCommands store
    (controller.wire.command (registerFile store) (.write regAddr false))
    size several
  refine ⟨⟨asserts.orderly, asserts.answered, enable.trans enabled.symm,
    rxEmpty, empty, still, ?_⟩, ?_⟩
  · exact (congrArg Wire.direction wire).trans free
  · refine (congrArg (fun wire => wire.memory.registers) wire).trans ?_
    refine (congrArg RegisterFile.registers final).trans ?_
    rw [memory]
    rfl

/-- `I2C_read` fetches the registers from the address on, and where it reports
no error the controller is ready for the next access. -/
theorem read_registers (buf : Vector UInt8 size) (state : State) :
    (read access.transfer buf state).1 =
        Vector.ofFn (fun index =>
          controller.memory.registers (regAddr + UInt8.ofNat index.val)) ∧
      ((read access.transfer buf state).2.error = .ok ∨
        (read access.transfer buf state).2.error = .readFailed ∧
          access.transfer.masterRead.status = ebusy) ∧
      ((read access.transfer buf state).2.error = .ok →
        Ready access.second.controller ∧
          access.second.controller.memory.registers =
            controller.memory.registers) := by
  obtain ⟨written, status⟩ := access.status_eq ready.addressed acked several
  have bytes := received_registers access ready acked several
  refine ⟨?_, ?_, ?_⟩
  · have stored : (read access.transfer buf state).1 =
        access.transfer.masterRead.store buf := by
      unfold read
      rw [if_neg (by simp [written])]
      dsimp only
      split <;> rfl
    rw [stored]
    unfold MasterRead.store
    congr 1
    funext index
    rw [bytes]
    simp
  · rcases status with zero | busy
    · left
      simp [read, written, zero]
    · right
      refine ⟨?_, busy⟩
      simp [read, written, busy, ebusy]
  · intro ok
    obtain ⟨-, succeeds⟩ :=
      (read_error_iff access.transfer buf state).mp ok
    exact ready_of_succeeded access ready acked succeeds several

omit access ready acked several in
/-- Whatever the slave refuses and however driver and controller take turns,
`I2C_read` comes back. Where everything is acknowledged it has read the registers
from the address on, and can only have failed to switch the controller off. -/
theorem read_returns {controller : Controller RegisterFile}
    (ready : Ready controller) (regAddr : UInt8) {size : Nat}
    (several : 0 < size) (buf : Vector UInt8 size) (state : State)
    {firstRounds secondRounds : List (List Move)} (firstFair : Fair firstRounds)
    (secondFair : Fair secondRounds)
    (firstEnough : pollCount + 22 ≤ firstRounds.length)
    (secondEnough : 11 * size + pollCount + 20 ≤ secondRounds.length) :
    ∃ access : Access (registerFile store) controller regAddr (.read size true),
      access.firstMoves = firstRounds.flatten ∧
        access.secondMoves = secondRounds.flatten ∧
          (access.Heeded → (read access.transfer buf state).2.error = .ok →
            (read access.transfer buf state).1 =
              Vector.ofFn (fun index =>
                controller.memory.registers
                  (regAddr + UInt8.ofNat index.val))) ∧
          (access.Acked →
            (read access.transfer buf state).1 =
              Vector.ofFn (fun index =>
                controller.memory.registers
                  (regAddr + UInt8.ofNat index.val)) ∧
            ((read access.transfer buf state).2.error = .ok ∨
              (read access.transfer buf state).2.error = .readFailed ∧
                access.transfer.masterRead.status = ebusy)) := by
  have enough : (Master.read size true).left + 7 ≤ secondRounds.length := by
    rw [Master.left_read]
    omega
  obtain ⟨access, firstMoves, secondMoves⟩ := @access_of_rounds _
    (registerFile store) _ ready regAddr _
    (fun _ agreed => underway_read agreed size true) _ _ firstFair secondFair
    firstEnough enough
  refine ⟨access, firstMoves, secondMoves, ?_, ?_⟩
  · intro heeded ok
    have succeeds := (read_error_iff access.transfer buf state).mp ok
    obtain ⟨other, acked, transfer, -⟩ :=
      exists_acked_of_succeeds ready.addressed several heeded succeeds
    rw [← transfer]
    exact (read_registers other ready acked several buf state).1
  · intro acked
    obtain ⟨bytes, error, -⟩ :=
      read_registers access ready acked several buf state
    exact ⟨bytes, error⟩

end RegisterFile

/-- A sensor whose registers hold their own addresses. -/
def sensor : Controller RegisterFile :=
  ⟨false, false, false, [], [], none, none, false, ⟨id, 0, false⟩⟩

theorem sensor_ready : Ready sensor :=
  ⟨⟨fun _ => ⟨rfl, rfl, by simp [sensor]⟩, fun _ => ⟨rfl, rfl⟩⟩, rfl, rfl,
    rfl, rfl, rfl, rfl⟩

theorem read_returns_sensor :
    ∃ access : Access (registerFile fun file _ => file) sensor 0x88
        (.read 24 true),
      access.firstMoves = (alternating (pollCount + 22)).flatten ∧
        access.secondMoves = (alternating (pollCount + 284)).flatten ∧
          (read access.transfer (Vector.replicate _ 0) State.initial).1 =
            Vector.ofFn (fun index =>
              sensor.memory.registers (0x88 + UInt8.ofNat index.val)) := by
  obtain ⟨access, firstMoves, secondMoves, -, bytes⟩ :=
    @read_returns (fun file _ => file) sensor sensor_ready 0x88 24 (by decide)
      (Vector.replicate _ 0) State.initial (alternating (pollCount + 22))
      (alternating (pollCount + 284)) (fair_alternating _) (fair_alternating _)
      (by simp) (by simp; omega)
  have acked : access.Acked := by
    rw [Access.Acked, firstMoves, secondMoves]
    exact ⟨acked_alternating _, acked_alternating _⟩
  exact ⟨access, firstMoves, secondMoves, (bytes acked).1⟩

/-- The slave has written other values into its registers. -/
def Controller.refreshed (controller : Controller RegisterFile)
    (registers : UInt8 → UInt8) : Controller RegisterFile :=
  { controller with
    memory := { controller.memory with registers := registers } }

theorem Ready.refreshed {controller : Controller RegisterFile}
    (ready : Ready controller) (registers : UInt8 → UInt8) :
    Ready (controller.refreshed registers) :=
  ⟨⟨ready.orderly.kept, ready.orderly.off⟩, ready.answered, ready.agreed,
    ready.rxEmpty, ready.empty, ready.still, ready.direction⟩

end I2C

namespace BMP280

open I2C

def calOf (registers : UInt8 → UInt8) : Cal where
  rawData := Vector.ofFn fun index =>
    registers (cal0Reg + UInt8.ofNat index.val)

def rawOf (registers : UInt8 → UInt8) : BMP280Meas where
  pressure := merge (registers 0xF7) (registers 0xF8) (registers 0xF9)
  temperature :=
    (merge (registers 0xFA) (registers 0xFB) (registers 0xFC)).toInt32

/-- One measurement after another, each with what its buffer happened to
hold. -/
def measurements :
    List (Transfer measDataSize × Vector UInt8 measDataSize) → State →
      I2C.State → List BMP280Meas
  | [], _, _ => []
  | (transfer, stack) :: rest, state, i2c =>
      let (meas, state, i2c) := getMeasurement transfer stack state i2c
      meas :: measurements rest state i2c

theorem measurements_cons (transfer : Transfer measDataSize)
    (stack : Vector UInt8 measDataSize)
    (rest : List (Transfer measDataSize × Vector UInt8 measDataSize))
    (state : State) (i2c : I2C.State) :
    measurements ((transfer, stack) :: rest) state i2c =
      (getMeasurement transfer stack state i2c).1 ::
        measurements rest (getMeasurement transfer stack state i2c).2.1
          (getMeasurement transfer stack state i2c).2.2 := rfl

variable {store : RegisterFile → UInt8 → RegisterFile}

/-- Accesses to the measurement registers, before each of which the sensor has
written new values into them. -/
inductive Served (store : RegisterFile → UInt8 → RegisterFile) :
    Controller RegisterFile → List (UInt8 → UInt8) →
      List (Transfer measDataSize × Vector UInt8 measDataSize) → Prop
  | nil (controller : Controller RegisterFile) : Served store controller [] []
  | cons {controller : Controller RegisterFile} {registers : UInt8 → UInt8}
    {later : List (UInt8 → UInt8)}
    {transfers : List (Transfer measDataSize × Vector UInt8 measDataSize)}
    (access : Access (registerFile store) (controller.refreshed registers)
      pressMsbReg (.read measDataSize true))
    (heeded : access.Heeded) (succeeds : access.transfer.Succeeds)
    (stack : Vector UInt8 measDataSize)
    (rest : Served store access.second.controller later transfers) :
    Served store controller (registers :: later)
      ((access.transfer, stack) :: transfers)

theorem init_registers {controller : Controller RegisterFile}
    (access : Access (registerFile store) controller cal0Reg
      (.read calDataSize true))
    (ready : Ready controller) (acked : access.Acked)
    (addressStatus dataStatus : Int32) (state : State) (i2c : I2C.State) :
    (init addressStatus dataStatus access.transfer state i2c).1.cal =
      calOf controller.memory.registers := by
  have read := (read_registers access ready acked (by decide)
    state.cal.rawData (I2C.write addressStatus dataStatus i2c)).1
  simp only [init, readCalibrationRegs, read]
  rfl

theorem getMeasurement_registers {controller : Controller RegisterFile}
    (access : Access (registerFile store) controller pressMsbReg
      (.read measDataSize true))
    (ready : Ready controller) (acked : access.Acked)
    (stack : Vector UInt8 measDataSize) (state : State) (i2c : I2C.State) :
    (getMeasurement access.transfer stack state i2c).1 =
        computeCompensation state.cal (rawOf controller.memory.registers) ∧
      (getMeasurement access.transfer stack state i2c).2.1.cal = state.cal := by
  have read := (read_registers access ready acked (by decide) stack i2c).1
  refine ⟨?_, rfl⟩
  simp only [getMeasurement, readMeasurementRegs, read]
  congr 1

theorem measurements_registers {controller : Controller RegisterFile}
    (ready : Ready controller) {registers : List (UInt8 → UInt8)}
    {transfers : List (Transfer measDataSize × Vector UInt8 measDataSize)}
    (served : Served store controller registers transfers) (state : State)
    (i2c : I2C.State) :
    measurements transfers state i2c =
      registers.map fun registers =>
        computeCompensation state.cal (rawOf registers) := by
  induction served generalizing state i2c with
  | nil => rfl
  | @cons controller registers later transfers access heeded succeeds stack rest
      induction =>
      have refreshed := ready.refreshed registers
      obtain ⟨other, acked, transfer, second⟩ :=
        exists_acked_of_succeeds refreshed.addressed (by decide) heeded succeeds
      rw [← transfer] at succeeds
      obtain ⟨meas, cal⟩ :=
        getMeasurement_registers other refreshed acked stack state i2c
      obtain ⟨next, -⟩ :=
        ready_of_succeeded other refreshed acked succeeds.2 (by decide)
      rw [transfer] at meas cal
      rw [second] at next
      rw [measurements_cons, induction next, List.map_cons, meas, cal]
      rfl

/-- However the driver, the controller and the sensor take turns on the bus, the
station measures what the registers of the sensor say at the time, by the
calibration that they held when it was started, as long as the transfers report
no error and nothing was refused while the calls did not look. -/
theorem measures_registers {controller : Controller RegisterFile}
    (ready : Ready controller)
    (calibration : Access (registerFile store) controller cal0Reg
      (.read calDataSize true))
    (heeded : calibration.Heeded)
    (succeeds : calibration.transfer.Succeeds)
    {registers : List (UInt8 → UInt8)}
    {transfers : List (Transfer measDataSize × Vector UInt8 measDataSize)}
    (served : Served store calibration.second.controller registers transfers)
    (addressStatus dataStatus : Int32) (state : State) (i2c : I2C.State) :
    let started :=
      init addressStatus dataStatus calibration.transfer state i2c
    measurements transfers started.1 started.2 =
      registers.map fun registers =>
        computeCompensation (calOf controller.memory.registers)
          (rawOf registers) := by
  intro started
  obtain ⟨other, acked, transfer, second⟩ :=
    exists_acked_of_succeeds ready.addressed (by decide) heeded succeeds
  rw [← transfer] at succeeds
  obtain ⟨next, -⟩ :=
    ready_of_succeeded other ready acked succeeds.2 (by decide)
  have cal := init_registers other ready acked addressStatus dataStatus
    state i2c
  rw [transfer] at cal
  rw [second] at next
  rw [measurements_registers next served, cal]

/-- Driver and controller taking turns. -/
def turns (count : Nat) : List Move :=
  (List.replicate count [.driver, .controller true, .controller true]).flatten

def sensorCalibration : Access (registerFile fun file _ => file) sensor cal0Reg
    (.read calDataSize true) :=
  ⟨turns 20, turns 140, by decide +kernel, by decide +kernel⟩

/-- By the first measurement the registers hold other values. -/
def sensorAccess : Access (registerFile fun file _ => file)
    (sensorCalibration.second.controller.refreshed fun _ => 0x80) pressMsbReg
    (.read measDataSize true) :=
  ⟨turns 20, turns 50, by decide +kernel, by decide +kernel⟩

theorem measures_registers_first :
    let started := init 0 0 sensorCalibration.transfer
      ⟨⟨Vector.replicate _ 0⟩, ⟨0, 0⟩⟩ I2C.State.initial
    measurements [(sensorAccess.transfer, Vector.replicate _ 0)] started.1
        started.2 =
      [computeCompensation (calOf id) (rawOf fun _ => 0x80)] :=
  measures_registers sensor_ready sensorCalibration (by decide +kernel)
    (by decide +kernel)
    (.cons sensorAccess (by decide +kernel) (by decide +kernel) _ (.nil _))
    0 0 _ _

end BMP280

end QuarkMeteoStation
