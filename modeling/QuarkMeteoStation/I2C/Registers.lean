import QuarkMeteoStation.I2C.Transfers

namespace QuarkMeteoStation

open Library

namespace I2C

universe u

/-! `I2C_read` over the controller: a call to write the register's address and a
call to read, and what they fetch from a slave that is a file of registers. -/

section Counts

variable {Memory : Type u} {slave : Slave Memory} {size : Nat}
variable {exchange : Exchange Memory}

/-- What a call to read has stored, whether or not the slave answers. -/
structure Counts (size : Nat) (exchange : Exchange Memory) : Prop where
  reading : exchange.master.reading = true
  path : Path exchange.master.point true
  bound : exchange.master.stored.length + exchange.master.len +
    exchange.master.point.inLoop.toNat ≤ size
  exact : exchange.master.rc = 0 →
    exchange.master.stored.length + exchange.master.len +
        exchange.master.point.inLoop.toNat = size ∧
      (exchange.master.point.after = true → exchange.master.len = 0)

theorem Counts.goto (counts : Counts size exchange)
    (controller : Controller Memory) {next : Point} (path : Path next true)
    (same : next.inLoop = exchange.master.point.inLoop)
    (after : next.after = true → exchange.master.rc = 0 →
      exchange.master.len = 0) :
    Counts size ({ exchange with controller := controller }.goto next) := by
  obtain ⟨reading, -, bound, exact⟩ := counts
  rw [← same] at bound exact
  exact ⟨reading, path, bound, fun rc =>
    ⟨(exact rc).1, fun isAfter => after isAfter rc⟩⟩

theorem Counts.driver_loop (counts : Counts size exchange)
    (loop : exchange.master.point.inLoop = true ∨
      exchange.master.point = .testReadLen) :
    Counts size exchange.driver := by
  obtain ⟨reading, path, bound, exact⟩ := counts
  have counts : Counts size exchange := ⟨reading, path, bound, exact⟩
  cases point : exchange.master.point with
  | testReadLen =>
      rw [point] at bound exact
      rw [Exchange.driver, point]
      dsimp only
      split
      next len =>
        exact counts.goto _ trivial (by simp [point, Point.inLoop])
          (fun _ _ => len)
      next len more =>
        rw [more] at bound exact
        simp only [Point.inLoop, Bool.toNat_false] at bound exact
        refine ⟨reading, rfl, ?_, fun rc => ⟨?_, by simp [Point.after]⟩⟩
        · simp only [Point.inLoop, Bool.toNat_true]
          omega
        · have whole := (exact rc).1
          simp only [Point.inLoop, Bool.toNat_true]
          omega
  | writeCommand =>
      rw [Exchange.driver, point]
      exact counts.goto _ rfl (by simp [point, Point.inLoop])
        (by simp [Point.after])
  | awaitData =>
      rw [Exchange.driver, point]
      dsimp only
      split
      next =>
        exact counts.goto _ rfl (by simp [point, Point.inLoop])
          (by simp [Point.after])
      next => exact counts
  | testDataAborted =>
      rw [Exchange.driver, point]
      dsimp only
      split
      next =>
        simp only [point, Point.inLoop, Bool.toNat_true] at bound
        refine ⟨reading, trivial, ?_, fun rc => ?_⟩
        · simp only [Point.inLoop, Bool.toNat_false]
          omega
        · simp [eio] at rc
      next =>
        exact counts.goto _ rfl (by simp [point, Point.inLoop])
          (by simp [Point.after])
  | readData =>
      rw [Exchange.driver, point]
      simp only [point, Point.inLoop, Bool.toNat_true] at bound exact
      refine ⟨reading, rfl, ?_, fun rc => ⟨?_, by simp [Point.after]⟩⟩
      · simp only [Point.inLoop, Bool.toNat_false, List.length_append,
          List.length_singleton]
        omega
      · have whole := (exact rc).1
        simp only [Point.inLoop, Bool.toNat_false, List.length_append,
          List.length_singleton]
        omega
  | _ => simp [point, Point.inLoop] at loop

theorem Counts.driver_after (counts : Counts size exchange)
    (after : exchange.master.point.after = true) :
    Counts size exchange.driver := by
  have emptied (rc : exchange.master.rc = 0) : exchange.master.len = 0 :=
    (counts.exact rc).2 after
  cases point : exchange.master.point with
  | testStop =>
      rw [Exchange.driver, point]
      dsimp only
      split
      next =>
        exact counts.goto _ trivial (by simp [point, Point.inLoop])
          (fun _ => emptied)
      next =>
        exact counts.goto _ trivial (by simp [point, Point.inLoop])
          (fun _ => emptied)
  | disable | clearAborted =>
      rw [Exchange.driver, point]
      exact counts.goto _ trivial (by simp [point, Point.inLoop])
        (fun _ => emptied)
  | poll left =>
      rw [Exchange.driver, point]
      dsimp only
      split
      next =>
        cases left with
        | zero =>
            exact counts.goto _ trivial (by simp [point, Point.inLoop])
              (fun _ => emptied)
        | succ left =>
            exact counts.goto _ trivial (by simp [point, Point.inLoop])
              (fun _ => emptied)
      next =>
        exact counts.goto _ trivial (by simp [point, Point.inLoop])
          (fun _ => emptied)
  | testDisabled =>
      obtain ⟨reading, -, bound, exact⟩ := counts
      rw [point] at bound exact
      rw [Exchange.driver, point]
      refine ⟨reading, trivial, bound, fun rc => ?_⟩
      cases enabled : exchange.controller.enabled with
      | true => simp [enabled, ebusy] at rc
      | false =>
          simp only [enabled, Bool.false_eq_true, if_false] at rc
          exact exact rc
  | returned =>
      rw [Exchange.driver, point]
      exact counts
  | testAborted =>
      have path := counts.path
      rw [point] at path
      exact absurd path.symm Bool.false_ne_true
  | _ => simp [point, Point.after] at after

theorem Counts.driver (counts : Counts size exchange) :
    Counts size exchange.driver := by
  have path := counts.path
  cases point : exchange.master.point with
  | testEnabled =>
      rw [Exchange.driver, point]
      dsimp only
      split
      next =>
        exact counts.goto _ trivial (by simp [point, Point.inLoop])
          (by simp [Point.after])
      next =>
        exact counts.goto _ trivial (by simp [point, Point.inLoop])
          (by simp [Point.after])
  | awaitEnabled =>
      rw [Exchange.driver, point]
      dsimp only
      split
      next =>
        exact counts.goto _ trivial (by simp [point, Point.inLoop])
          (by simp [Point.after])
      next => exact counts
  | clearInterrupts =>
      rw [Exchange.driver, point]
      dsimp only
      rw [if_pos counts.reading]
      exact counts.goto _ rfl (by simp [point, Point.inLoop])
        (by simp [Point.after])
  | testWriteLen | awaitNotFull | writeData | awaitEmpty =>
      rw [point] at path
      exact absurd path.symm Bool.false_ne_true
  | testReadLen | writeCommand | awaitData | testDataAborted | readData =>
      exact counts.driver_loop (by simp [point, Point.inLoop])
  | _ => exact counts.driver_after (by simp [point, Point.after])

theorem counts_run (stop : Bool) (controller : Controller Memory)
    (moves : List Move) :
    Counts size ((machine slave).exec ⟨.read size stop, controller⟩
      moves) := by
  refine (machine slave).invariant (Counts size) ?_ _ ?_ moves
  · intro exchange move counts
    cases move with
    | driver => exact counts.driver
    | controller => exact ⟨counts.reading, counts.path, counts.bound,
        counts.exact⟩
  · refine ⟨rfl, trivial, ?_, fun _ => ⟨?_, by simp [Master.read, Point.after]⟩⟩
    · simp [Master.read, Point.inLoop]
    · simp [Master.read, Point.inLoop]

end Counts

section Access

variable {Memory : Type u}

/-- A register's address and a second call behind it, wherever the calls and the
controller took turns. -/
structure Access (slave : Slave Memory) (controller : Controller Memory)
    (regAddr : UInt8) (call : Master) where
  firstMoves : List Move
  secondMoves : List Move
  addressed : ((machine slave).exec ⟨.write [regAddr] false, controller⟩
    firstMoves).master.point = .returned
  returned : ((machine slave).exec
    ⟨call, ((machine slave).exec
      ⟨.write [regAddr] false, controller⟩ firstMoves).controller⟩
    secondMoves).master.point = .returned

namespace Access

variable {slave : Slave Memory} {controller : Controller Memory}
variable {regAddr : UInt8} {call : Master}
variable (access : Access slave controller regAddr call)

def first : Exchange Memory :=
  (machine slave).exec ⟨.write [regAddr] false, controller⟩ access.firstMoves

def firstLine : List Event :=
  (machine slave).trace ⟨.write [regAddr] false, controller⟩ access.firstMoves

def second : Exchange Memory :=
  (machine slave).exec ⟨call, access.first.controller⟩ access.secondMoves

def secondLine : List Event :=
  (machine slave).trace ⟨call, access.first.controller⟩ access.secondMoves

/-- What was seen on the bus. -/
def line : List Event :=
  access.firstLine ++ access.secondLine

def Acked : Prop :=
  I2C.Acked access.firstMoves ∧ I2C.Acked access.secondMoves

variable (addressed : Addressed controller) (ready : Ready controller)
variable (acked : access.Acked)

include addressed acked

theorem asserts_first : Asserts 1 access.firstLine access.first :=
  (asserts_run Nat.one_pos
    (asserts_write addressed [regAddr] false) acked.1).1

theorem first_returned :
    access.first.master.rc = 0 ∧ Addressed access.first.controller := by
  have goesOn : access.first.master.stop = false :=
    (task_run _ access.firstMoves).1
  exact addressed_of_returned (access.asserts_first addressed acked)
    access.addressed goesOn

theorem planned_first :
    access.firstLine ++ access.first.controller.planned slave [] =
        controller.planned slave [.write regAddr false] ∧
      access.first.controller.wire =
        access.firstLine.foldl (Wire.see slave) controller.wire := by
  obtain ⟨-, planned, wire⟩ := asserts_run Nat.one_pos
    (asserts_write addressed [regAddr] false) acked.1
  have returned : access.first.master.point = .returned := access.addressed
  have remaining : access.first.master.remaining = [] := by
    simp [Master.remaining, returned]
  have planned : access.firstLine ++ access.first.controller.planned slave
      access.first.master.remaining =
        controller.planned slave [.write regAddr false] := planned
  rw [remaining] at planned
  exact ⟨planned, wire⟩

theorem received_first : received access.firstLine = [] := by
  have asserts := access.asserts_first addressed acked
  have returned : access.first.master.point = .returned := access.addressed
  have writes : access.first.master.reading = false :=
    (task_run _ access.firstMoves).2
  have between := asserts.between (by simp [returned]) (by simp [returned])
    (by simp [returned])
  rw [asserts.bytes, between.rxEmpty, asserts.written writes]
  rfl

variable {size : Nat} (several : 0 < size)
variable (begins : Asserts size [] ⟨call, access.first.controller⟩)

omit addressed

include several begins

theorem asserts_second : Asserts size access.secondLine access.second :=
  (asserts_run several begins acked.2).1

include ready

/-- Both calls together put on the bus what their commands ask for. -/
theorem line_planned (start : call.point = .testEnabled) :
    access.line ++ access.second.planned slave =
        controller.wire.events slave
          (.write regAddr false :: call.commands) ∧
      access.second.controller.wire =
        access.line.foldl (Wire.see slave) controller.wire := by
  obtain ⟨planned, wire⟩ := access.planned_first ready.addressed acked
  obtain ⟨-, read, readWire⟩ := asserts_run several begins acked.2
  refine ⟨?_, ?_⟩
  · have whole : controller.planned slave
        ([.write regAddr false] ++ call.commands) =
          controller.wire.events slave
            (.write regAddr false :: call.commands) := by
      rw [Controller.planned_of_still ready.still, ready.empty]
      rfl
    have remaining : call.remaining = [] ++ call.commands := by
      simp [Master.remaining, start]
    have later : access.secondLine ++ access.second.planned slave =
        access.first.controller.planned slave ([] ++ call.commands) := by
      rw [← remaining]
      exact read
    rw [line, List.append_assoc, later, ← whole,
      access.first.controller.planned_append, controller.planned_append,
      ← planned, List.foldl_append, ← wire, List.append_assoc]
  · rw [line, List.foldl_append, ← wire]
    exact readWire

/-- Once it has returned without an error, the call has done everything. -/
theorem line_of_succeeded (start : call.point = .testEnabled)
    (stops : call.stop = true) (succeeds : access.second.master.rc = 0) :
    access.line =
        controller.wire.events slave
          (.write regAddr false :: call.commands) ∧
      access.second.controller.wire =
        controller.wire.commands slave
          (.write regAddr false :: call.commands) ∧
      access.second.controller.enable = false ∧
      access.second.controller.enabled = false ∧
      access.second.controller.rxFifo = [] ∧
      access.second.controller.pending = [] ∧
      access.second.controller.stopping = false := by
  have asserts := access.asserts_second acked several begins
  obtain ⟨planned, wire⟩ :=
    access.line_planned ready acked several begins start
  have returned : access.second.master.point = .returned := access.returned
  have stopped : access.second.master.stop = true :=
    (task_run _ access.secondMoves).1.trans stops
  have switched := asserts.switched
  rw [returned, Switched, if_pos stopped] at switched
  have off := switched.2 succeeds
  obtain ⟨idle, still⟩ := asserts.orderly.off off
  have empty : access.second.controller.pending = [] := by
    simp [Controller.pending, idle,
      asserts.drained (by simp [returned, Point.after])]
  have between := asserts.between (by simp [returned]) (by simp [returned])
    (by simp [returned])
  have done : access.second.planned slave = [] := by
    simp [Exchange.planned, Master.remaining, returned, Controller.planned,
      empty, still, Wire.finishEvents, Wire.events]
  rw [done, List.append_nil] at planned
  rw [planned, Wire.see_events] at wire
  exact ⟨planned, wire, switched.1, off, between.rxEmpty, empty, still⟩

end Access

namespace Access

section Read

variable {slave : Slave Memory} {controller : Controller Memory}
variable {regAddr : UInt8} {size : Nat}
variable (access : Access slave controller regAddr (.read size true))

theorem counts : Counts size access.second :=
  counts_run true access.first.controller access.secondMoves

/-- The two calls as `I2C_read` sees them. -/
def transfer : Transfer size where
  writeStatus := access.first.master.rc
  masterRead :=
    { status := access.second.master.rc
      received := access.second.master.stored
      fits := by
        have bound := access.counts.bound
        omega
      complete := by
        intro succeeded
        have returned : access.second.master.point = .returned :=
          access.returned
        obtain ⟨counted, emptied⟩ := access.counts.exact succeeded
        have none := emptied (by rw [returned]; rfl)
        simp only [returned, Point.inLoop, Bool.toNat_false, none] at counted
        exact counted }

variable (addressed : Addressed controller) (ready : Ready controller)
variable (acked : access.Acked)

include addressed acked

theorem read_begins :
    Asserts size [] ⟨.read size true, access.first.controller⟩ :=
  asserts_read (access.first_returned addressed acked).2 true

variable (several : 0 < size)

include several

theorem status_eq :
    access.transfer.writeStatus = 0 ∧
      (access.transfer.masterRead.status = 0 ∨
        access.transfer.masterRead.status = ebusy) := by
  have begins := access.read_begins addressed acked
  refine ⟨(access.first_returned addressed acked).1, ?_⟩
  rcases (access.asserts_second acked several begins).rc with
    zero | ⟨busy, -⟩
  · exact Or.inl zero
  · exact Or.inr busy

omit addressed

include ready

/-- The bytes stored are those the commands ask the slave for. -/
theorem received_eq :
    access.transfer.masterRead.received =
      received (controller.wire.events slave
        (.write regAddr false :: readCommands size true)) := by
  have begins := access.read_begins ready.addressed acked
  have asserts := access.asserts_second acked several begins
  have returned : access.second.master.point = .returned := access.returned
  have reads : access.second.master.reading = true :=
    (task_run _ access.secondMoves).2
  obtain ⟨-, empty⟩ := asserts.finished reads
    (by simp [returned, Point.after])
  have between := asserts.between (by simp [returned]) (by simp [returned])
    (by simp [returned])
  have bytes := asserts.bytes
  rw [between.rxEmpty, List.append_nil] at bytes
  -- all that can be missing from the bus is the stop condition
  have left : access.second.planned slave =
      Wire.finishEvents access.second.controller.stopping := by
    simp [Exchange.planned, Master.remaining, returned, Controller.planned,
      empty, Wire.events]
  have stop : received
      (Wire.finishEvents access.second.controller.stopping) = [] := by
    unfold Wire.finishEvents
    split <;> rfl
  have planned :=
    (access.line_planned ready acked several begins rfl).1
  have commands : (Master.read size true).commands =
      readCommands size true := rfl
  rw [commands] at planned
  rw [← planned, received_append, left, stop, line, received_append,
    access.received_first ready.addressed acked, bytes]
  simp [transfer]

end Read

section Write

variable {slave : Slave Memory} {controller : Controller Memory}

theorem events_writeCommands (wire : Wire Memory)
    (writing : wire.direction = some .write) {data : List UInt8}
    (several : data ≠ []) :
    wire.events slave (writeCommands data true) =
      data.map .sent ++ [.stop] := by
  induction data generalizing wire with
  | nil => exact absurd rfl several
  | cons byte rest induction =>
      by_cases last : rest = []
      · subst last
        simp [writeCommands, Wire.events, Wire.commandEvents,
          Wire.startEvents, Wire.dataEvent, Wire.finishEvents,
          Command.direction, Command.stop, writing]
      · have next : (wire.command slave (.write byte false)).direction =
            some .write := by
          simp [Wire.command, Wire.start, Wire.data, Wire.finish,
            Command.direction, Command.stop, writing]
        have later := induction _ next last
        simp only [writeCommands, last, decide_false, Bool.false_and,
          Wire.events, later]
        simp [Wire.commandEvents, Wire.startEvents, Wire.dataEvent,
          Wire.finishEvents, Command.direction, Command.stop, writing]

/-- Where `I2C_write` reports no error, the register's address and the data went
over the bus in one transfer, and nothing else. -/
theorem line_of_written {regAddr : UInt8} {data : List UInt8}
    (access : Access slave controller regAddr (.write data true))
    (ready : Ready controller) (acked : access.Acked) (several : data ≠ [])
    (state : State)
    (ok : (write access.first.master.rc access.second.master.rc
      state).error = .ok) :
    access.line =
      [.start .write, .sent regAddr] ++ data.map .sent ++ [.stop] := by
  have succeeds : access.second.master.rc = 0 := by
    by_contra fails
    by_cases first : access.first.master.rc = 0
    · simp [write, first, fails] at ok
    · simp [write, first] at ok
  have begins : Asserts 1 [] ⟨.write data true, access.first.controller⟩ :=
    asserts_write (access.first_returned ready.addressed acked).2 data
      true
  obtain ⟨line, -⟩ := access.line_of_succeeded ready acked Nat.one_pos begins
    rfl rfl succeeds
  have commands : (Master.write data true).commands =
      writeCommands data true := rfl
  have addressed : (controller.wire.command slave
      (.write regAddr false)).direction = some .write := by
    simp [Wire.command, Wire.start, Wire.data, Wire.finish,
      Command.direction, Command.stop, Controller.wire, ready.direction]
  rw [line, commands, Wire.events, events_writeCommands _ addressed several]
  simp [Wire.commandEvents, Wire.startEvents, Wire.dataEvent,
    Wire.finishEvents, Command.direction, Command.stop, Controller.wire,
    ready.direction]

end Write

end Access

end Access

end I2C

end QuarkMeteoStation
