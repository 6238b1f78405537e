import QuarkMeteoStation.I2C.Controller

namespace QuarkMeteoStation

open Library

namespace I2C

universe u

/-! `qm_i2c_master_write` and `qm_i2c_master_read`, one access to a register at a
time, while the controller goes on by itself. -/

/-- Where a call is, after the statements of the source. -/
inductive Point
  | testEnabled
  | awaitEnabled
  | clearInterrupts
  | testWriteLen
  | awaitNotFull
  | writeData
  | awaitEmpty
  | testAborted
  | testReadLen
  | writeCommand
  | awaitData
  | testDataAborted
  | readData
  | testStop
  | disable
  | poll (pollCount : Nat)
  | testDisabled
  | clearAborted
  | returned
  deriving DecidableEq, Repr

def fifoSize : Nat := 16
def pollCount : Nat := 1000000
def eio : Int32 := -5
def ebusy : Int32 := -16

structure Master where
  point : Point
  reading : Bool
  /-- What is left to write. -/
  data : List UInt8
  /-- How much is left to read. -/
  len : Nat
  /-- What has been stored in the caller's buffer. -/
  stored : List UInt8
  stop : Bool
  rc : Int32
  deriving DecidableEq, Repr

def Master.write (data : List UInt8) (stop : Bool) : Master :=
  ⟨.testEnabled, false, data, 0, [], stop, 0⟩

def Master.read (len : Nat) (stop : Bool) : Master :=
  ⟨.testEnabled, true, [], len, [], stop, 0⟩

/-- Until an abort is cleared the transmit FIFO takes nothing. -/
def Controller.push {Memory : Type u} (controller : Controller Memory)
    (command : Command) : Controller Memory :=
  if controller.aborted then controller
  else { controller with txFifo := controller.txFifo ++ [command] }

structure Exchange (Memory : Type u) where
  master : Master
  controller : Controller Memory

namespace Exchange

variable {Memory : Type u}

def goto (exchange : Exchange Memory) (point : Point) : Exchange Memory :=
  { exchange with master := { exchange.master with point := point } }

def driver (exchange : Exchange Memory) : Exchange Memory :=
  let master := exchange.master
  let controller := exchange.controller
  match master.point with
  | .testEnabled =>
      if controller.enabled then exchange.goto .clearInterrupts
      else
        { exchange with controller := { controller with enable := true } }.goto
          .awaitEnabled
  | .awaitEnabled =>
      if controller.enabled then exchange.goto .clearInterrupts else exchange
  | .clearInterrupts =>
      { exchange with controller := { controller with aborted := false } }.goto
        (if master.reading then .testReadLen else .testWriteLen)
  | .testWriteLen =>
      exchange.goto (if master.data = [] then .awaitEmpty else .awaitNotFull)
  | .awaitNotFull =>
      if controller.txFifo.length < fifoSize then exchange.goto .writeData
      else exchange
  | .writeData =>
      match master.data with
      | [] => exchange
      | byte :: rest =>
          { master :=
              { master with point := .testWriteLen, data := rest }
            controller :=
              controller.push (.write byte (rest = [] && master.stop)) }
  | .awaitEmpty =>
      if controller.txFifo = [] then exchange.goto .testAborted else exchange
  | .testAborted =>
      { exchange with
        master :=
          { master with
            point := .testStop
            rc := if controller.aborted then eio else master.rc } }
  | .testReadLen =>
      match master.len with
      | 0 => exchange.goto .testStop
      | len + 1 =>
          { exchange with
            master := { master with point := .writeCommand, len := len } }
  | .writeCommand =>
      { exchange with
        controller :=
          controller.push (.read (master.len = 0 && master.stop)) }.goto
        .awaitData
  | .awaitData =>
      if controller.rxFifo ≠ [] ∨ controller.aborted then
        exchange.goto .testDataAborted
      else exchange
  | .testDataAborted =>
      if controller.aborted then
        { exchange with master := { master with point := .testStop, rc := eio } }
      else exchange.goto .readData
  | .readData =>
      -- an empty receive FIFO would give whatever it last held
      { master :=
          { master with
            point := .testReadLen
            stored := master.stored ++ [controller.rxFifo.headD 0] }
        controller := { controller with rxFifo := controller.rxFifo.tail } }
  | .testStop =>
      exchange.goto (if master.stop then .disable else .clearAborted)
  | .disable =>
      { exchange with controller := { controller with enable := false } }.goto
        (.poll pollCount)
  | .poll left =>
      if controller.enabled then
        match left with
        | 0 => exchange.goto .testDisabled
        | left + 1 => exchange.goto (.poll left)
      else exchange.goto .testDisabled
  | .testDisabled =>
      { exchange with
        master :=
          { master with
            point := .clearAborted
            rc := if controller.enabled then ebusy else master.rc } }
  | .clearAborted =>
      { exchange with controller := { controller with aborted := false } }.goto
        .returned
  | .returned => exchange

end Exchange

inductive Move
  | driver
  | controller (acked : Bool)
  deriving DecidableEq, Repr

def machine {Memory : Type u} (slave : Slave Memory) :
    Machine (Exchange Memory) Move Event where
  start := fun exchange => exchange.master.point = .testEnabled
  step := fun exchange move =>
    match move with
    | .driver => exchange.driver
    | .controller acked =>
        { exchange with controller := exchange.controller.advance slave acked }
  output := fun exchange move =>
    match move with
    | .driver => none
    | .controller acked => exchange.controller.event slave acked

/-- Every byte and every address is acknowledged. -/
def Acked (moves : List Move) : Prop :=
  ∀ move ∈ moves, move ≠ .controller false

def writeCommands : List UInt8 → Bool → List Command
  | [], _ => []
  | byte :: rest, stop =>
      .write byte (rest = [] && stop) :: writeCommands rest stop

def readCommands : Nat → Bool → List Command
  | 0, _ => []
  | len + 1, stop => .read (len = 0 && stop) :: readCommands len stop

def Master.commands (master : Master) : List Command :=
  if master.reading then readCommands master.len master.stop
  else writeCommands master.data master.stop

/-- The commands the call has yet to give. -/
def Master.remaining (master : Master) : List Command :=
  match master.point with
  | .testEnabled | .awaitEnabled | .clearInterrupts => master.commands
  | .testWriteLen | .awaitNotFull | .writeData =>
      writeCommands master.data master.stop
  | .writeCommand =>
      .read (master.len = 0 && master.stop) ::
        readCommands master.len master.stop
  | .testReadLen | .awaitData | .testDataAborted | .readData =>
      readCommands master.len master.stop
  | _ => []

/-- What is still to come on the bus. -/
def Exchange.planned {Memory : Type u} (slave : Slave Memory)
    (exchange : Exchange Memory) : List Event :=
  exchange.controller.planned slave exchange.master.remaining

section Planned

variable {Memory : Type u} {slave : Slave Memory} {exchange : Exchange Memory}

theorem planned_push {controller : Controller Memory}
    (answered : controller.aborted = false) (command : Command)
    (more : List Command) :
    (controller.push command).planned slave more =
      controller.planned slave (command :: more) := by
  simp [Controller.push, answered, Controller.planned, Controller.pending,
    Controller.wire]

/-- A step of the driver gives a command, or changes nothing of the plan. -/
theorem planned_driver (answered : exchange.controller.aborted = false) :
    exchange.driver.planned slave = exchange.planned slave := by
  cases point : exchange.master.point with
  | testEnabled =>
      have same (next : Point) : Master.commands
          { exchange.master with point := next } = exchange.master.commands :=
        rfl
      rw [Exchange.driver, point]
      dsimp only
      split <;> simp [Exchange.planned, Exchange.goto, Master.remaining, point,
        same, Controller.planned, Controller.pending, Controller.wire]
  | awaitEnabled =>
      rw [Exchange.driver, point]
      dsimp only
      split
      · simp only [Exchange.planned, Exchange.goto, Master.remaining, point]
        rfl
      · rfl
  | clearInterrupts =>
      cases reading : exchange.master.reading <;>
        simp [Exchange.driver, Exchange.planned, Exchange.goto,
          Master.remaining, Master.commands, point, reading,
          Controller.planned, Controller.pending, Controller.wire]
  | testWriteLen =>
      by_cases written : exchange.master.data = [] <;>
        simp [Exchange.driver, Exchange.planned, Exchange.goto,
          Master.remaining, point, written, writeCommands]
  | writeData =>
      cases data : exchange.master.data with
      | nil => simp [Exchange.driver, point, data]
      | cons byte rest =>
          simp [Exchange.driver, Exchange.planned, Master.remaining, point,
            data, writeCommands, planned_push answered]
  | testReadLen =>
      cases len : exchange.master.len <;>
        simp [Exchange.driver, Exchange.planned, Exchange.goto,
          Master.remaining, point, len, readCommands]
  | writeCommand =>
      simp [Exchange.driver, Exchange.planned, Exchange.goto,
        Master.remaining, point, planned_push answered]
  | testStop =>
      cases stop : exchange.master.stop <;>
        simp [Exchange.driver, Exchange.planned, Exchange.goto,
          Master.remaining, point, stop]
  | awaitNotFull | awaitEmpty | awaitData =>
      rw [Exchange.driver, point]
      dsimp only
      split <;> simp [Exchange.planned, Exchange.goto, Master.remaining, point]
  | poll left =>
      rw [Exchange.driver, point]
      dsimp only
      split
      · cases left <;>
          simp [Exchange.planned, Exchange.goto, Master.remaining, point]
      · simp [Exchange.planned, Exchange.goto, Master.remaining, point]
  | testAborted | testDataAborted | readData | disable | testDisabled
  | clearAborted | returned =>
      simp [Exchange.driver, Exchange.planned, Exchange.goto,
        Master.remaining, point, answered, Controller.planned,
        Controller.pending, Controller.wire]

end Planned

end I2C

end QuarkMeteoStation
