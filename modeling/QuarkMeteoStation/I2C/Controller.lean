import QuarkMeteoStation.Library.Machine
import QuarkMeteoStation.I2C

namespace QuarkMeteoStation

open Library

namespace I2C

universe u

/-! The bus controller between its two FIFOs and the slave. It takes commands,
carries them out on the bus and gives bytes back, at a pace of its own. -/

inductive Direction
  | write
  | read
  deriving DecidableEq, Repr

/-- What the driver writes to `ic_data_cmd`. -/
inductive Command
  | write (byte : UInt8) (stop : Bool)
  | read (stop : Bool)
  deriving DecidableEq, Repr

namespace Command

def direction : Command → Direction
  | write _ _ => .write
  | read _ => .read

def stop : Command → Bool
  | write _ stop => stop
  | read stop => stop

end Command

/-- What happens on the two lines. -/
inductive Event
  /-- A start or a repeated start, and the slave's address. -/
  | start (direction : Direction)
  | sent (byte : UInt8)
  | received (byte : UInt8)
  | refused
  | stop
  deriving DecidableEq, Repr

structure Slave (Memory : Type u) where
  notice : Memory → Event → Memory
  offers : Memory → UInt8

structure Controller (Memory : Type u) where
  /-- `ic_enable`. -/
  enable : Bool
  /-- `ic_enable_status`. -/
  enabled : Bool
  /-- `ic_tx_abrt_source`. -/
  aborted : Bool
  txFifo : List Command
  rxFifo : List UInt8
  /-- The command under way. -/
  shift : Option Command
  /-- The transfer under way. -/
  direction : Option Direction
  /-- A stop condition is due. -/
  stopping : Bool
  memory : Memory

/-- The bus as the slave knows it. -/
structure Wire (Memory : Type u) where
  memory : Memory
  direction : Option Direction

namespace Wire

variable {Memory : Type u} (slave : Slave Memory)

def start (wire : Wire Memory) (direction : Direction) : Wire Memory :=
  if wire.direction = some direction then wire
  else ⟨slave.notice wire.memory (.start direction), some direction⟩

def startEvents (wire : Wire Memory) (direction : Direction) : List Event :=
  if wire.direction = some direction then [] else [.start direction]

def dataEvent (wire : Wire Memory) : Command → Event
  | .write byte _ => .sent byte
  | .read _ => .received (slave.offers wire.memory)

def data (wire : Wire Memory) (command : Command) : Wire Memory :=
  { wire with memory := slave.notice wire.memory (wire.dataEvent slave command) }

def finish (wire : Wire Memory) (stop : Bool) : Wire Memory :=
  if stop then ⟨slave.notice wire.memory .stop, none⟩ else wire

def finishEvents (stop : Bool) : List Event :=
  if stop then [.stop] else []

/-- The bus once a command has been carried out. -/
def command (wire : Wire Memory) (command : Command) : Wire Memory :=
  ((wire.start slave command.direction).data slave command).finish slave
    command.stop

def commandEvents (wire : Wire Memory) (command : Command) : List Event :=
  wire.startEvents command.direction ++
    (wire.start slave command.direction).dataEvent slave command ::
      finishEvents command.stop

/-- What a slave that answers shows of a sequence of commands. -/
def events (wire : Wire Memory) : List Command → List Event
  | [] => []
  | command :: rest =>
      wire.commandEvents slave command ++
        (wire.command slave command).events rest

def commands (wire : Wire Memory) (sequence : List Command) : Wire Memory :=
  sequence.foldl (command slave) wire

/-- The bus after something was seen on it. -/
def see (wire : Wire Memory) (event : Event) : Wire Memory where
  memory := slave.notice wire.memory event
  direction :=
    match event with
    | .start direction => some direction
    | .stop => none
    | _ => wire.direction

theorem see_commandEvents (wire : Wire Memory) (command : Command) :
    (wire.commandEvents slave command).foldl (see slave) wire =
      wire.command slave command := by
  have begins : (wire.startEvents command.direction).foldl (see slave) wire =
      wire.start slave command.direction := by
    unfold startEvents start
    split <;> rfl
  have carries : see slave (wire.start slave command.direction)
      ((wire.start slave command.direction).dataEvent slave command) =
        (wire.start slave command.direction).data slave command := by
    cases command <;> rfl
  rw [commandEvents, List.foldl_append, begins, List.foldl_cons, carries]
  unfold Wire.command finishEvents finish
  split <;> rfl

/-- What is on the bus is all the slave sees. -/
theorem see_events (wire : Wire Memory) (sequence : List Command) :
    (wire.events slave sequence).foldl (see slave) wire =
      wire.commands slave sequence := by
  induction sequence generalizing wire with
  | nil => rfl
  | cons command rest induction =>
      rw [events, List.foldl_append, see_commandEvents, induction]
      rfl

theorem events_append (wire : Wire Memory) (first second : List Command) :
    wire.events slave (first ++ second) =
      wire.events slave first ++
        (wire.commands slave first).events slave second := by
  induction first generalizing wire with
  | nil => rfl
  | cons command first induction =>
      rw [List.cons_append, events, induction, events, List.append_assoc]
      rfl

end Wire

namespace Controller

variable {Memory : Type u} (slave : Slave Memory)

def wire (controller : Controller Memory) : Wire Memory :=
  ⟨controller.memory, controller.direction⟩

def event (acked : Bool) (controller : Controller Memory) : Option Event :=
  if controller.stopping then some .stop
  else
    controller.shift.map fun command =>
      if controller.direction = some command.direction then
        match command with
        | .write byte _ => if acked then .sent byte else .refused
        | .read _ => .received (slave.offers controller.memory)
      else if acked then .start command.direction else .refused

def abort (controller : Controller Memory) : Controller Memory :=
  { controller with
    aborted := true
    txFifo := []
    shift := none
    stopping := true
    memory := slave.notice controller.memory .refused }

/-- What the controller does between two commands. -/
def fetch (controller : Controller Memory) : Controller Memory :=
  match controller.enable, controller.enabled, controller.txFifo with
  | false, true, _ =>
      { controller with enabled := false, txFifo := [], rxFifo := [] }
  | true, false, _ => { controller with enabled := true }
  | true, true, command :: rest =>
      { controller with shift := some command, txFifo := rest }
  | _, _, _ => controller

def execute (acked : Bool) (controller : Controller Memory)
    (command : Command) : Controller Memory :=
  if controller.direction = some command.direction then
    match command with
    | .write byte stop =>
        if acked then
          { controller with
            shift := none
            stopping := stop
            memory := slave.notice controller.memory (.sent byte) }
        else controller.abort slave
    | .read stop =>
        let byte := slave.offers controller.memory
        { controller with
          shift := none
          rxFifo := controller.rxFifo ++ [byte]
          stopping := stop
          memory := slave.notice controller.memory (.received byte) }
  else if acked then
    { controller with
      direction := some command.direction
      memory := slave.notice controller.memory (.start command.direction) }
  else controller.abort slave

def advance (acked : Bool) (controller : Controller Memory) :
    Controller Memory :=
  if controller.stopping then
    { controller with
      stopping := false
      direction := none
      memory := slave.notice controller.memory .stop }
  else
    match controller.shift with
    | some command => controller.execute slave acked command
    | none => controller.fetch

/-- The commands it has yet to carry out. -/
def pending (controller : Controller Memory) : List Command :=
  controller.shift.toList ++ controller.txFifo

/-- What is still to come on the bus once these commands follow. -/
def planned (controller : Controller Memory) (more : List Command) :
    List Event :=
  Wire.finishEvents controller.stopping ++
    (controller.wire.finish slave controller.stopping).events slave
      (controller.pending ++ more)

/-- A controller that is switched off has nothing under way, and is not
switched off over what it has to do or to give. -/
structure Orderly (controller : Controller Memory) : Prop where
  kept : controller.enable = false → controller.txFifo = [] ∧
    controller.rxFifo = [] ∧
      ∀ command ∈ controller.shift, command.direction = .write
  off : controller.enabled = false →
    controller.shift = none ∧ controller.stopping = false

variable {slave}

theorem advance_of_shift {controller : Controller Memory} {acked : Bool}
    (still : controller.stopping = false) {command : Command}
    (shifted : controller.shift = some command) :
    controller.advance slave acked =
      controller.execute slave acked command := by
  rw [advance, if_neg (by simp [still]), shifted]

theorem advance_of_idle {controller : Controller Memory} {acked : Bool}
    (still : controller.stopping = false) (idle : controller.shift = none) :
    controller.advance slave acked = controller.fetch := by
  rw [advance, if_neg (by simp [still]), idle]

theorem Orderly.on {controller : Controller Memory}
    (orderly : controller.Orderly) {command : Command}
    (shifted : controller.shift = some command) :
    controller.enabled = true := by
  by_contra off
  have idle := (orderly.off (by simpa using off)).1
  simp [shifted] at idle

theorem Orderly.execute {controller : Controller Memory}
    (orderly : controller.Orderly) {command : Command}
    (shifted : controller.shift = some command) :
    (controller.execute slave true command).Orderly := by
  have on := orderly.on shifted
  have direction (off : controller.enable = false) :
      command.direction = .write :=
    (orderly.kept off).2.2 command shifted
  unfold Controller.execute
  by_cases same : controller.direction = some command.direction
  · rw [if_pos same]
    cases command with
    | write byte stop =>
        refine ⟨fun off => ?_, fun off => by simp [on] at off⟩
        obtain ⟨txEmpty, rxEmpty, -⟩ := orderly.kept off
        exact ⟨txEmpty, rxEmpty, by simp⟩
    | read stop =>
        refine ⟨fun off => ?_, fun off => by simp [on] at off⟩
        exact Direction.noConfusion (direction off)
  · rw [if_neg same]
    exact ⟨orderly.kept, fun off => by simp [on] at off⟩

theorem Orderly.fetch {controller : Controller Memory}
    (orderly : controller.Orderly) (idle : controller.shift = none)
    (still : controller.stopping = false) : controller.fetch.Orderly := by
  unfold Controller.fetch
  split
  next => exact ⟨fun _ => ⟨rfl, rfl, by simp [idle]⟩, fun _ => ⟨idle, still⟩⟩
  next enable enabled =>
    exact ⟨fun off => by simp [enable] at off, fun off => by simp at off⟩
  next enable enabled queued =>
    exact ⟨fun off => by simp [enable] at off,
      fun off => by simp [enabled] at off⟩
  next => exact orderly

theorem Orderly.advance {controller : Controller Memory}
    (orderly : controller.Orderly) :
    (controller.advance slave true).Orderly := by
  unfold Controller.advance
  split
  next => exact ⟨orderly.kept, fun off => ⟨(orderly.off off).1, rfl⟩⟩
  next still =>
    split
    next command shifted => exact orderly.execute shifted
    next idle => exact orderly.fetch idle (by simpa using still)

theorem planned_of_still {controller : Controller Memory}
    (still : controller.stopping = false) (more : List Command) :
    controller.planned slave more =
      controller.wire.events slave (controller.pending ++ more) := by
  simp [planned, still, Wire.finishEvents, Wire.finish]

theorem event_planned_execute {controller : Controller Memory}
    (still : controller.stopping = false) {command : Command}
    (shifted : controller.shift = some command) (more : List Command) :
    (controller.event slave true).toList ++
        (controller.execute slave true command).planned slave more =
      controller.planned slave more := by
  rw [planned_of_still still, pending, shifted]
  by_cases same : controller.direction = some command.direction
  · cases command with
    | write byte stop =>
        simp [event, still, shifted, execute, same, planned, pending, wire,
          Wire.events, Wire.commandEvents, Wire.startEvents, Wire.dataEvent,
          Wire.command, Wire.start, Wire.data, Command.stop,
          Command.direction] at *
    | read stop =>
        simp [event, still, shifted, execute, same, planned, pending, wire,
          Wire.events, Wire.commandEvents, Wire.startEvents, Wire.dataEvent,
          Wire.command, Wire.start, Wire.data, Command.stop,
          Command.direction] at *
  · simp [event, still, shifted, execute, same, planned_of_still, pending, wire,
      Wire.events, Wire.commandEvents, Wire.startEvents, Wire.command,
      Wire.start]

theorem planned_fetch {controller : Controller Memory}
    (orderly : controller.Orderly) (still : controller.stopping = false)
    (idle : controller.shift = none) (more : List Command) :
    controller.fetch.planned slave more = controller.planned slave more := by
  unfold fetch
  split
  next off _ =>
    simp [planned, still, pending, idle, (orderly.kept off).1, wire]
  next => simp [planned, pending, wire]
  next command rest _ _ queued =>
    simp [planned, still, pending, idle, queued, wire]
  next => rfl

/-- Where the slave answers, the controller does what was planned. -/
theorem event_planned {controller : Controller Memory}
    (orderly : controller.Orderly) (more : List Command) :
    (controller.event slave true).toList ++
        (controller.advance slave true).planned slave more =
      controller.planned slave more := by
  cases stopping : controller.stopping with
  | true =>
      simp [event, advance, stopping, planned, Wire.finishEvents, Wire.finish,
        wire, pending]
  | false =>
      cases shifted : controller.shift with
      | some command =>
          rw [advance_of_shift stopping shifted]
          exact event_planned_execute stopping shifted more
      | none =>
          have silent : controller.event slave true = none := by
            simp [event, stopping, shifted]
          rw [silent, advance_of_idle stopping shifted, Option.toList_none,
            List.nil_append]
          exact planned_fetch orderly stopping shifted more

theorem planned_append (controller : Controller Memory)
    (first second : List Command) :
    controller.planned slave (first ++ second) =
      controller.planned slave first ++
        ((controller.planned slave first).foldl (Wire.see slave)
          controller.wire).events slave second := by
  have finished : (Wire.finishEvents controller.stopping).foldl
      (Wire.see slave) controller.wire =
        controller.wire.finish slave controller.stopping := by
    unfold Wire.finishEvents Wire.finish
    split <;> rfl
  simp only [planned, List.foldl_append, finished, Wire.see_events,
    List.append_assoc, ← Wire.events_append]

theorem wire_fetch (controller : Controller Memory) :
    controller.fetch.wire = controller.wire := by
  unfold fetch
  split <;> rfl

theorem wire_advance (controller : Controller Memory) (acked : Bool) :
    (controller.advance slave acked).wire =
      (controller.event slave acked).toList.foldl (Wire.see slave)
        controller.wire := by
  unfold advance event
  cases stopping : controller.stopping with
  | true => rfl
  | false =>
      simp only [Bool.false_eq_true, if_false]
      cases shifted : controller.shift with
      | none => exact wire_fetch controller
      | some command =>
          unfold execute
          simp only [Option.map_some, Option.toList_some, List.foldl_cons,
            List.foldl_nil]
          split
          next same =>
            cases command with
            | write byte stop => cases acked <;> rfl
            | read stop => rfl
          next => cases acked <;> rfl

/-- What a step of the controller does to its queues. -/
inductive Stepped (slave : Slave Memory) (controller : Controller Memory) : Prop
  | other
    (pending : (controller.advance slave true).pending = controller.pending)
    (rxFifo : (controller.advance slave true).rxFifo = controller.rxFifo)
    (silent : ∀ byte, controller.event slave true ≠ some (.received byte))
  | wrote (byte : UInt8) (stop : Bool)
    (pending : controller.pending =
      .write byte stop :: (controller.advance slave true).pending)
    (rxFifo : (controller.advance slave true).rxFifo = controller.rxFifo)
    (event : controller.event slave true = some (.sent byte))
  | read (byte : UInt8) (stop : Bool)
    (pending : controller.pending =
      .read stop :: (controller.advance slave true).pending)
    (rxFifo : (controller.advance slave true).rxFifo =
      controller.rxFifo ++ [byte])
    (event : controller.event slave true = some (.received byte))

theorem stepped_execute {controller : Controller Memory}
    (still : controller.stopping = false) {command : Command}
    (shifted : controller.shift = some command) :
    Stepped slave controller := by
  have advanced := @advance_of_shift _ slave _ true still _ shifted
  by_cases same : controller.direction = some command.direction
  · cases command with
    | write byte stop =>
        refine .wrote byte stop ?_ ?_ ?_
        · simp [advanced, execute, same, pending, shifted]
        · simp [advanced, execute, same]
        · simp [event, still, shifted, same]
    | read stop =>
        refine .read (slave.offers controller.memory) stop ?_ ?_ ?_
        · simp [advanced, execute, same, pending, shifted]
        · simp [advanced, execute, same]
        · simp [event, still, shifted, same]
  · refine .other ?_ ?_ ?_
    · simp [advanced, execute, same, pending]
    · simp [advanced, execute, same]
    · simp [event, still, shifted, same]

theorem stepped {controller : Controller Memory}
    (orderly : controller.Orderly) : Stepped slave controller := by
  cases stopping : controller.stopping with
  | true =>
      refine .other ?_ ?_ ?_
      · simp [advance, stopping, pending]
      · simp [advance, stopping]
      · simp [event, stopping]
  | false =>
      cases shifted : controller.shift with
      | some command => exact stepped_execute stopping shifted
      | none =>
          have advanced := @advance_of_idle _ slave _ true stopping shifted
          refine .other ?_ ?_ (by simp [event, stopping, shifted])
          · rw [advanced]
            unfold fetch
            split
            next off _ => simp [pending, (orderly.kept off).1]
            next => rfl
            next _ _ queued => simp [pending, shifted, queued]
            next => rfl
          · rw [advanced]
            unfold fetch
            split
            next off _ => exact (orderly.kept off).2.1.symm
            next => rfl
            next => rfl
            next => rfl

@[simp] theorem enable_advance (controller : Controller Memory)
    (acked : Bool) :
    (controller.advance slave acked).enable = controller.enable := by
  unfold advance execute abort fetch
  repeat' split
  all_goals rfl

theorem aborted_advance (controller : Controller Memory) :
    (controller.advance slave true).aborted = controller.aborted := by
  unfold advance execute fetch
  repeat' split
  all_goals first | rfl | contradiction

theorem aborted_kept {controller : Controller Memory} (acked : Bool)
    (aborted : controller.aborted = true) :
    (controller.advance slave acked).aborted = true := by
  unfold advance execute abort fetch
  repeat' split
  all_goals first | exact aborted | rfl

theorem txFifo_advance {controller : Controller Memory} {acked : Bool}
    (drained : controller.txFifo = []) :
    (controller.advance slave acked).txFifo = [] := by
  unfold advance execute abort fetch
  repeat' split
  all_goals first | exact drained | rfl | skip
  all_goals simp_all

theorem enabled_fetch (controller : Controller Memory) :
    controller.fetch.enabled = controller.enabled ∨
      controller.fetch.enabled = controller.enable := by
  unfold fetch
  split
  next off _ => exact Or.inr off.symm
  next on _ => exact Or.inr on.symm
  next => exact Or.inl rfl
  next => exact Or.inl rfl

theorem enabled_advance (controller : Controller Memory) (acked : Bool) :
    (controller.advance slave acked).enabled = controller.enabled ∨
      (controller.advance slave acked).enabled = controller.enable := by
  unfold advance
  split
  next => exact Or.inl rfl
  next =>
    split
    next =>
      left
      unfold execute abort
      repeat' split
      all_goals rfl
    next => exact enabled_fetch controller

end Controller

end I2C

end QuarkMeteoStation
