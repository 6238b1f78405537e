import QuarkMeteoStation.I2C.Master

namespace QuarkMeteoStation

open Library

namespace I2C

universe u

/-! What driver and controller can rely on wherever either of them is, and what
a call has done when it returns. -/

def received (line : List Event) : List UInt8 :=
  line.filterMap fun event =>
    match event with
    | .received byte => some byte
    | _ => none

@[simp] theorem received_append (first second : List Event) :
    received (first ++ second) = received first ++ received second :=
  List.filterMap_append

namespace Point

/-- Between giving a command to read and storing the byte. -/
def inLoop : Point → Bool
  | writeCommand | awaitData | testDataAborted | readData => true
  | _ => false

/-- After the loop of the call. -/
def after : Point → Bool
  | testAborted | testStop | disable | poll _ | testDisabled | clearAborted
  | returned => true
  | _ => false

end Point

section Assertions

variable {Memory : Type u}

/-- No byte is on its way to the driver. -/
structure Between (controller : Controller Memory) (stored : List UInt8) :
    Prop where
  rxEmpty : controller.rxFifo = []
  writes : ∀ command ∈ controller.pending, command.direction = .write
  fetched : stored ≠ [] → controller.pending = []

structure Held (controller : Controller Memory) : Prop where
  rxFifo : ∃ byte, controller.rxFifo = [byte]
  none : controller.pending = []

/-- One byte is on its way. -/
def Awaiting (controller : Controller Memory) : Prop :=
  Held controller ∨ controller.rxFifo = [] ∧ ∃ before stop,
    controller.pending = before ++ [.read stop] ∧
      ∀ command ∈ before, command.direction = .write

def Queued (point : Point) (controller : Controller Memory)
    (stored : List UInt8) : Prop :=
  match point with
  | .awaitData => Awaiting controller
  | .testDataAborted | .readData => Held controller
  | _ => Between controller stored

def On (controller : Controller Memory) : Prop :=
  controller.enable = true ∧ controller.enabled = true

def Switched (point : Point) (stop : Bool) (rc : Int32)
    (controller : Controller Memory) : Prop :=
  match point with
  | .testEnabled => controller.enable = controller.enabled
  | .awaitEnabled => controller.enable = true
  | .disable => stop = true ∧ On controller
  | .poll _ | .testDisabled => stop = true ∧ controller.enable = false
  | .clearAborted | .returned =>
      if stop then
        controller.enable = false ∧ (rc = 0 → controller.enabled = false)
      else On controller
  | _ => On controller

def Path (point : Point) (reading : Bool) : Prop :=
  match point with
  | .testWriteLen | .awaitNotFull | .writeData | .awaitEmpty | .testAborted =>
      reading = false
  | .testReadLen | .writeCommand | .awaitData | .testDataAborted | .readData =>
      reading = true
  | _ => True

/-- The assertion at every point of a call, where the slave answers. -/
structure Asserts (size : Nat) (line : List Event)
    (exchange : Exchange Memory) : Prop where
  orderly : exchange.controller.Orderly
  answered : exchange.controller.aborted = false
  bytes : received line =
    exchange.master.stored ++ exchange.controller.rxFifo
  queued : Queued exchange.master.point exchange.controller
    exchange.master.stored
  switched : Switched exchange.master.point exchange.master.stop
    exchange.master.rc exchange.controller
  counted : exchange.master.reading = true →
    exchange.master.stored.length + exchange.master.len +
      exchange.master.point.inLoop.toNat = size
  drained : exchange.master.point.after = true →
    exchange.controller.txFifo = []
  finished : exchange.master.reading = true →
    exchange.master.point.after = true →
      exchange.master.len = 0 ∧ exchange.controller.pending = []
  path : Path exchange.master.point exchange.master.reading
  written : exchange.master.reading = false → exchange.master.stored = []
  rc : exchange.master.rc = 0 ∨ exchange.master.rc = ebusy ∧
    exchange.master.stop = true ∧ (exchange.master.point = .clearAborted ∨
      exchange.master.point = .returned)

section Controller

variable {slave : Slave Memory} {controller : Controller Memory}

theorem Between.advance (orderly : controller.Orderly)
    {stored : List UInt8} (between : Between controller stored) :
    Between (controller.advance slave true) stored := by
  obtain ⟨rxEmpty, writes, fetched⟩ := between
  rcases @Controller.stepped _ slave _ orderly with
    ⟨pending, rxFifo, -⟩ | ⟨byte, stop, pending, rxFifo, -⟩ |
      ⟨byte, stop, pending, -, -⟩
  · exact ⟨rxFifo.trans rxEmpty, by rwa [pending], by rwa [pending]⟩
  · rw [pending] at writes fetched
    refine ⟨rxFifo.trans rxEmpty, ?_, ?_⟩
    · exact fun command member => writes command (List.mem_cons_of_mem _ member)
    · exact fun several => absurd (fetched several) (List.cons_ne_nil _ _)
  · rw [pending] at writes
    exact Direction.noConfusion (writes _ List.mem_cons_self)

theorem Held.advance (orderly : controller.Orderly) (held : Held controller) :
    Held (controller.advance slave true) := by
  obtain ⟨byte, none⟩ := held
  rcases @Controller.stepped _ slave _ orderly with
    ⟨pending, rxFifo, -⟩ | ⟨_, _, pending, -, -⟩ | ⟨_, _, pending, -, -⟩
  · exact ⟨by rwa [rxFifo], by rwa [pending]⟩
  · simp [none] at pending
  · simp [none] at pending

theorem Awaiting.advance (orderly : controller.Orderly)
    (awaiting : Awaiting controller) :
    Awaiting (controller.advance slave true) := by
  rcases awaiting with held | ⟨rxEmpty, before, stop, queued, writes⟩
  · exact Or.inl (held.advance orderly)
  · rcases @Controller.stepped _ slave _ orderly with
      ⟨pending, rxFifo, -⟩ | ⟨byte, _, pending, rxFifo, -⟩ |
        ⟨byte, _, pending, rxFifo, -⟩
    · exact Or.inr ⟨rxFifo.trans rxEmpty, before, stop, pending.trans queued,
        writes⟩
    · rw [queued] at pending
      cases before with
      | nil => simp at pending
      | cons command before =>
          obtain ⟨-, rest⟩ := List.cons.inj pending
          exact Or.inr ⟨rxFifo.trans rxEmpty, before, stop, rest.symm,
            fun command member => writes command
              (List.mem_cons_of_mem _ member)⟩
    · rw [queued] at pending
      cases before with
      | nil =>
          obtain ⟨-, rest⟩ := List.cons.inj pending
          exact Or.inl ⟨⟨byte, by rw [rxFifo, rxEmpty]; rfl⟩, rest.symm⟩
      | cons command before =>
          obtain ⟨rfl, -⟩ := List.cons.inj pending
          exact Direction.noConfusion (writes _ List.mem_cons_self)

theorem Queued.advance (orderly : controller.Orderly) {point : Point}
    {stored : List UInt8} (queued : Queued point controller stored) :
    Queued point (controller.advance slave true) stored := by
  cases point with
  | awaitData => exact Awaiting.advance orderly queued
  | testDataAborted | readData => exact Held.advance orderly queued
  | _ => exact Between.advance orderly queued

theorem On.advance (on : On controller) (acked : Bool) :
    On (controller.advance slave acked) := by
  refine ⟨by simpa using on.1, ?_⟩
  rcases @Controller.enabled_advance _ slave controller acked with
    same | enable
  · exact same.trans on.2
  · exact enable.trans on.1

theorem Switched.advance {point : Point} {stop : Bool} {rc : Int32}
    (switched : Switched point stop rc controller) (acked : Bool) :
    Switched point stop rc (controller.advance slave acked) := by
  have returned (finished : if stop then
      controller.enable = false ∧ (rc = 0 → controller.enabled = false)
        else On controller) :
      if stop then (controller.advance slave acked).enable = false ∧
          (rc = 0 → (controller.advance slave acked).enabled = false)
        else On (controller.advance slave acked) := by
    split
    next stops =>
      rw [if_pos stops] at finished
      refine ⟨by simpa using finished.1, fun succeeded => ?_⟩
      rcases @Controller.enabled_advance _ slave controller acked with
        same | enable
      · exact same.trans (finished.2 succeeded)
      · exact enable.trans finished.1
    next goesOn =>
      rw [if_neg goesOn] at finished
      exact finished.advance acked
  cases point with
  | testEnabled =>
      have agreed : controller.enable = controller.enabled := switched
      rcases @Controller.enabled_advance _ slave controller acked with
        same | enable
      · simp [Switched, same, agreed]
      · simp [Switched, enable]
  | awaitEnabled | poll | testDisabled => simpa [Switched] using switched
  | disable => exact ⟨switched.1, switched.2.advance acked⟩
  | clearAborted | returned => exact returned switched
  | _ => exact On.advance switched acked

/-- A step of the controller disturbs no assertion. -/
theorem Asserts.advance {size : Nat} {line : List Event}
    {exchange : Exchange Memory} (asserts : Asserts size line exchange) :
    Asserts size
      (line ++ (exchange.controller.event slave true).toList)
      { exchange with
        controller := exchange.controller.advance slave true } := by
  obtain ⟨orderly, answered, bytes, queued, switched, counted, drained,
    finished, path, written, rc⟩ := asserts
  refine ⟨orderly.advance, ?_, ?_, queued.advance orderly,
    switched.advance true, counted,
    fun after => Controller.txFifo_advance (drained after), ?_, path, written,
    rc⟩
  · exact (Controller.aborted_advance _).trans answered
  · rw [received_append, bytes]
    rcases @Controller.stepped _ slave _ orderly with
      ⟨-, rxFifo, silent⟩ | ⟨byte, _, -, rxFifo, event⟩ |
        ⟨byte, _, -, rxFifo, event⟩
    · have none : received (exchange.controller.event slave true).toList =
          [] := by
        cases shown : exchange.controller.event slave true with
        | none => rfl
        | some event =>
            cases event with
            | received byte => exact absurd shown (silent byte)
            | _ => rfl
      rw [none, rxFifo, List.append_nil]
    · rw [event, rxFifo]
      exact List.append_nil _
    · rw [event, rxFifo, List.append_assoc]
      rfl
  · intro reading after
    obtain ⟨len, none⟩ := finished reading after
    refine ⟨len, ?_⟩
    rcases @Controller.stepped _ slave _ orderly with
      ⟨pending, -, -⟩ | ⟨_, _, pending, -, -⟩ | ⟨_, _, pending, -, -⟩
    · exact pending.trans none
    · simp [none] at pending
    · simp [none] at pending

end Controller

section Push

variable {controller : Controller Memory}
variable (answered : controller.aborted = false) (command : Command)

include answered

theorem push_of_answered :
    controller.push command =
      { controller with txFifo := controller.txFifo ++ [command] } := by
  simp [Controller.push, answered]

theorem pending_push :
    (controller.push command).pending = controller.pending ++ [command] := by
  simp [push_of_answered answered, Controller.pending]

theorem orderly_push (orderly : controller.Orderly) (on : On controller) :
    (controller.push command).Orderly := by
  rw [push_of_answered answered]
  exact ⟨fun off => by simp [on.1] at off, orderly.off⟩

theorem on_push (on : On controller) : On (controller.push command) := by
  rw [push_of_answered answered]
  exact on

theorem awaiting_push {stored : List UInt8}
    (between : Between controller stored) (stop : Bool) :
    Awaiting (controller.push (.read stop)) := by
  refine Or.inr ⟨?_, controller.pending, stop, pending_push answered _,
    between.writes⟩
  rw [push_of_answered answered]
  exact between.rxEmpty

theorem between_push (between : Between controller []) (byte : UInt8)
    (stop : Bool) : Between (controller.push (.write byte stop)) [] := by
  refine ⟨?_, ?_, by simp⟩
  · rw [push_of_answered answered]
    exact between.rxEmpty
  · intro queued member
    rw [pending_push answered] at member
    rcases List.mem_append.mp member with earlier | new
    · exact between.writes queued earlier
    · rw [List.mem_singleton.mp new]
      rfl

end Push

section Driver

variable {size : Nat} {line : List Event} {exchange : Exchange Memory}

/-- The driver goes on, and at most writes a control register. -/
theorem Asserts.goto (asserts : Asserts size line exchange) {next : Point}
    {controller : Controller Memory} (orderly : controller.Orderly)
    (answered : controller.aborted = false)
    (rxFifo : controller.rxFifo = exchange.controller.rxFifo)
    (queued : Queued next controller exchange.master.stored)
    (switched : Switched next exchange.master.stop exchange.master.rc
      controller)
    (same : next.inLoop = exchange.master.point.inLoop)
    (drained : next.after = true → controller.txFifo = [])
    (finished : exchange.master.reading = true → next.after = true →
      exchange.master.len = 0 ∧ controller.pending = [])
    (path : Path next exchange.master.reading)
    (rc : exchange.master.rc = 0 ∨ exchange.master.rc = ebusy ∧
      exchange.master.stop = true ∧
        (next = .clearAborted ∨ next = .returned)) :
    Asserts size line
      ({ exchange with controller := controller }.goto next) := by
  refine ⟨orderly, answered, ?_, queued, switched, ?_, drained, finished,
    path, asserts.written, rc⟩
  · exact asserts.bytes.trans
      (congrArg (exchange.master.stored ++ ·) rxFifo.symm)
  · intro reading
    have counted := asserts.counted reading
    rw [← same] at counted
    exact counted

theorem Asserts.rc_eq_zero (asserts : Asserts size line exchange)
    (cleared : exchange.master.point ≠ .clearAborted)
    (returned : exchange.master.point ≠ .returned) :
    exchange.master.rc = 0 := by
  rcases asserts.rc with zero | ⟨-, -, point | point⟩
  · exact zero
  · exact absurd point cleared
  · exact absurd point returned

theorem Asserts.between (asserts : Asserts size line exchange)
    (awaits : exchange.master.point ≠ .awaitData)
    (tests : exchange.master.point ≠ .testDataAborted)
    (reads : exchange.master.point ≠ .readData) :
    Between exchange.controller exchange.master.stored := by
  have queued := asserts.queued
  unfold Queued at queued
  split at queued
  next point => exact absurd point awaits
  next point => exact absurd point tests
  next point => exact absurd point reads
  next => exact queued

theorem Asserts.driver_testEnabled (asserts : Asserts size line exchange)
    (point : exchange.master.point = .testEnabled) :
    Asserts size line exchange.driver := by
  have rc := asserts.rc_eq_zero (by simp [point]) (by simp [point])
  have between := asserts.between (by simp [point]) (by simp [point])
    (by simp [point])
  have switched := asserts.switched
  rw [point] at switched
  rw [Exchange.driver, point]
  dsimp only
  split
  next on =>
    exact asserts.goto asserts.orderly asserts.answered rfl between
      ⟨switched.trans on, on⟩ (by simp [point, Point.inLoop])
      (by simp [Point.after]) (by simp [Point.after]) trivial (Or.inl rc)
  next off =>
    refine asserts.goto ⟨by simp, asserts.orderly.off⟩ asserts.answered rfl
      ⟨between.rxEmpty, between.writes, between.fetched⟩ rfl
      (by simp [point, Point.inLoop]) (by simp [Point.after])
      (by simp [Point.after]) trivial (Or.inl rc)

theorem Asserts.driver_awaitEnabled (asserts : Asserts size line exchange)
    (point : exchange.master.point = .awaitEnabled) :
    Asserts size line exchange.driver := by
  have rc := asserts.rc_eq_zero (by simp [point]) (by simp [point])
  have between := asserts.between (by simp [point]) (by simp [point])
    (by simp [point])
  have switched := asserts.switched
  rw [point] at switched
  rw [Exchange.driver, point]
  dsimp only
  split
  next on =>
    exact asserts.goto asserts.orderly asserts.answered rfl between
      ⟨switched, on⟩ (by simp [point, Point.inLoop]) (by simp [Point.after])
      (by simp [Point.after]) trivial (Or.inl rc)
  next => exact asserts

theorem Asserts.driver_clearInterrupts (asserts : Asserts size line exchange)
    (point : exchange.master.point = .clearInterrupts) :
    Asserts size line exchange.driver := by
  have rc := asserts.rc_eq_zero (by simp [point]) (by simp [point])
  have between := asserts.between (by simp [point]) (by simp [point])
    (by simp [point])
  have on := asserts.switched
  rw [point] at on
  rw [Exchange.driver, point]
  dsimp only
  have cleared : Between
      { exchange.controller with aborted := false } exchange.master.stored :=
    ⟨between.rxEmpty, between.writes, between.fetched⟩
  cases reading : exchange.master.reading with
  | true =>
      exact asserts.goto ⟨asserts.orderly.kept, asserts.orderly.off⟩ rfl rfl
        cleared on (by simp [point, Point.inLoop]) (by simp [Point.after])
        (by simp [Point.after]) reading (Or.inl rc)
  | false =>
      exact asserts.goto ⟨asserts.orderly.kept, asserts.orderly.off⟩ rfl rfl
        cleared on (by simp [point, Point.inLoop]) (by simp [Point.after])
        (by simp [Point.after]) reading (Or.inl rc)

section Write

theorem Asserts.driver_testWriteLen (asserts : Asserts size line exchange)
    (point : exchange.master.point = .testWriteLen) :
    Asserts size line exchange.driver := by
  have rc := asserts.rc_eq_zero (by simp [point]) (by simp [point])
  have between := asserts.between (by simp [point]) (by simp [point])
    (by simp [point])
  have on := asserts.switched
  have writing := asserts.path
  rw [point] at on writing
  rw [Exchange.driver, point]
  dsimp only
  split
  next =>
    exact asserts.goto asserts.orderly asserts.answered rfl between on
      (by simp [point, Point.inLoop]) (by simp [Point.after])
      (by simp [Point.after]) writing (Or.inl rc)
  next =>
    exact asserts.goto asserts.orderly asserts.answered rfl between on
      (by simp [point, Point.inLoop]) (by simp [Point.after])
      (by simp [Point.after]) writing (Or.inl rc)

theorem Asserts.driver_awaitNotFull (asserts : Asserts size line exchange)
    (point : exchange.master.point = .awaitNotFull) :
    Asserts size line exchange.driver := by
  have rc := asserts.rc_eq_zero (by simp [point]) (by simp [point])
  have between := asserts.between (by simp [point]) (by simp [point])
    (by simp [point])
  have on := asserts.switched
  have writing := asserts.path
  rw [point] at on writing
  rw [Exchange.driver, point]
  dsimp only
  split
  next =>
    exact asserts.goto asserts.orderly asserts.answered rfl between on
      (by simp [point, Point.inLoop]) (by simp [Point.after])
      (by simp [Point.after]) writing (Or.inl rc)
  next => exact asserts

theorem Asserts.driver_writeData (asserts : Asserts size line exchange)
    (point : exchange.master.point = .writeData) :
    Asserts size line exchange.driver := by
  have rc := asserts.rc_eq_zero (by simp [point]) (by simp [point])
  have between := asserts.between (by simp [point]) (by simp [point])
    (by simp [point])
  have on := asserts.switched
  have writing := asserts.path
  rw [point] at on writing
  rw [Exchange.driver, point]
  dsimp only
  split
  next => exact asserts
  next byte rest written =>
    have unread : exchange.master.stored = [] := asserts.written writing
    have answered := asserts.answered
    have pushed := push_of_answered answered
      (.write byte (decide (rest = []) && exchange.master.stop))
    rw [unread] at between
    refine ⟨orderly_push answered _ asserts.orderly on, ?_, ?_, ?_,
      on_push answered _ on, ?_, by simp [Point.after], by simp [Point.after],
      writing, asserts.written, Or.inl rc⟩
    · rw [pushed]
      exact answered
    · rw [pushed]
      exact asserts.bytes
    · rw [unread]
      exact between_push answered between byte _
    · intro reading
      rw [writing] at reading
      exact absurd reading Bool.false_ne_true

theorem Asserts.driver_awaitEmpty (asserts : Asserts size line exchange)
    (point : exchange.master.point = .awaitEmpty) :
    Asserts size line exchange.driver := by
  have rc := asserts.rc_eq_zero (by simp [point]) (by simp [point])
  have between := asserts.between (by simp [point]) (by simp [point])
    (by simp [point])
  have on := asserts.switched
  have writing := asserts.path
  rw [point] at on writing
  rw [Exchange.driver, point]
  dsimp only
  split
  next empty =>
    refine asserts.goto asserts.orderly asserts.answered rfl between on
      (by simp [point, Point.inLoop]) (fun _ => empty) ?_ writing (Or.inl rc)
    intro reading
    rw [writing] at reading
    exact absurd reading Bool.false_ne_true
  next => exact asserts

theorem Asserts.driver_testAborted (asserts : Asserts size line exchange)
    (point : exchange.master.point = .testAborted) :
    Asserts size line exchange.driver := by
  have rc := asserts.rc_eq_zero (by simp [point]) (by simp [point])
  have between := asserts.between (by simp [point]) (by simp [point])
    (by simp [point])
  have on := asserts.switched
  have drained := asserts.drained (by simp [point, Point.after])
  have finished := asserts.finished
  rw [point] at on finished
  have unchanged : exchange.driver = exchange.goto .testStop := by
    simp [Exchange.driver, point, asserts.answered, Exchange.goto]
  rw [unchanged]
  exact asserts.goto asserts.orderly asserts.answered rfl between on
    (by simp [point, Point.inLoop]) (fun _ => drained)
    (fun reading _ => finished reading rfl) trivial (Or.inl rc)

end Write

section Read

theorem Asserts.driver_testReadLen (several : 0 < size)
    (asserts : Asserts size line exchange)
    (point : exchange.master.point = .testReadLen) :
    Asserts size line exchange.driver := by
  have rc := asserts.rc_eq_zero (by simp [point]) (by simp [point])
  have between := asserts.between (by simp [point]) (by simp [point])
    (by simp [point])
  have on := asserts.switched
  have reads := asserts.path
  rw [point] at on reads
  have counted := asserts.counted reads
  simp only [point, Point.inLoop, Bool.toNat_false, Nat.add_zero] at counted
  rw [Exchange.driver, point]
  dsimp only
  split
  next len =>
    have none : exchange.controller.pending = [] := by
      apply between.fetched
      intro empty
      simp only [len, empty, List.length_nil] at counted
      omega
    have drained : exchange.controller.txFifo = [] :=
      (List.append_eq_nil_iff.mp none).2
    exact asserts.goto asserts.orderly asserts.answered rfl between on
      (by simp [point, Point.inLoop]) (fun _ => drained)
      (fun _ _ => ⟨len, none⟩) trivial (Or.inl rc)
  next len more =>
    refine ⟨asserts.orderly, asserts.answered, asserts.bytes, between, on, ?_,
      by simp [Point.after], by simp [Point.after], reads, asserts.written,
      Or.inl rc⟩
    intro _
    rw [more] at counted
    exact (Nat.add_assoc _ _ _).trans counted

theorem Asserts.driver_writeCommand (asserts : Asserts size line exchange)
    (point : exchange.master.point = .writeCommand) :
    Asserts size line exchange.driver := by
  have rc := asserts.rc_eq_zero (by simp [point]) (by simp [point])
  have between := asserts.between (by simp [point]) (by simp [point])
    (by simp [point])
  have on := asserts.switched
  have reads := asserts.path
  rw [point] at on reads
  rw [Exchange.driver, point]
  dsimp only
  have answered := asserts.answered
  have pushed := push_of_answered answered
    (.read (decide (exchange.master.len = 0) && exchange.master.stop))
  refine asserts.goto (orderly_push answered _ asserts.orderly on) ?_ ?_
    (awaiting_push answered between _) (on_push answered _ on)
    (by simp [point, Point.inLoop]) (by simp [Point.after])
    (by simp [Point.after]) reads (Or.inl rc)
  · rw [pushed]
    exact answered
  · rw [pushed]

theorem Asserts.driver_awaitData (asserts : Asserts size line exchange)
    (point : exchange.master.point = .awaitData) :
    Asserts size line exchange.driver := by
  have rc := asserts.rc_eq_zero (by simp [point]) (by simp [point])
  have awaiting := asserts.queued
  have on := asserts.switched
  have reads := asserts.path
  rw [point] at awaiting on reads
  rw [Exchange.driver, point]
  dsimp only
  split
  next arrived =>
    have held : Held exchange.controller := by
      rcases awaiting with held | ⟨rxEmpty, -⟩
      · exact held
      · simp [rxEmpty, asserts.answered] at arrived
    exact asserts.goto asserts.orderly asserts.answered rfl held on
      (by simp [point, Point.inLoop]) (by simp [Point.after])
      (by simp [Point.after]) reads (Or.inl rc)
  next => exact asserts

theorem Asserts.driver_testDataAborted (asserts : Asserts size line exchange)
    (point : exchange.master.point = .testDataAborted) :
    Asserts size line exchange.driver := by
  have rc := asserts.rc_eq_zero (by simp [point]) (by simp [point])
  have held := asserts.queued
  have on := asserts.switched
  have reads := asserts.path
  rw [point] at held on reads
  have unchanged : exchange.driver = exchange.goto .readData := by
    simp [Exchange.driver, point, asserts.answered]
  rw [unchanged]
  exact asserts.goto asserts.orderly asserts.answered rfl held on
    (by simp [point, Point.inLoop]) (by simp [Point.after])
    (by simp [Point.after]) reads (Or.inl rc)

theorem Asserts.driver_readData (asserts : Asserts size line exchange)
    (point : exchange.master.point = .readData) :
    Asserts size line exchange.driver := by
  have rc := asserts.rc_eq_zero (by simp [point]) (by simp [point])
  have held := asserts.queued
  have on := asserts.switched
  have reads := asserts.path
  have bytes := asserts.bytes
  rw [point] at held on reads
  have counted := asserts.counted reads
  simp only [point, Point.inLoop, Bool.toNat_true] at counted
  obtain ⟨⟨byte, rxFifo⟩, none⟩ := held
  rw [Exchange.driver, point]
  dsimp only
  rw [rxFifo] at bytes ⊢
  refine ⟨⟨fun off => ?_, asserts.orderly.off⟩, asserts.answered, ?_,
    ⟨rfl, ?_, fun _ => none⟩, on, ?_, by simp [Point.after],
    by simp [Point.after], reads, ?_, Or.inl rc⟩
  · simp [on.1] at off
  · simpa using bytes
  · intro command member
    have listed : command ∈ exchange.controller.pending := member
    simp [none] at listed
  · intro _
    simp only [List.length_append, List.length_singleton, Point.inLoop,
      Bool.toNat_false]
    omega
  · intro writing
    rw [reads] at writing
    exact absurd writing.symm Bool.false_ne_true

end Read

section Return

theorem Asserts.driver_testStop (asserts : Asserts size line exchange)
    (point : exchange.master.point = .testStop) :
    Asserts size line exchange.driver := by
  have rc := asserts.rc_eq_zero (by simp [point]) (by simp [point])
  have between := asserts.between (by simp [point]) (by simp [point])
    (by simp [point])
  have drained := asserts.drained (by simp [point, Point.after])
  have finished := asserts.finished
  have on := asserts.switched
  rw [point] at on finished
  rw [Exchange.driver, point]
  dsimp only
  split
  next stops =>
    exact asserts.goto asserts.orderly asserts.answered rfl between
      ⟨stops, on⟩ (by simp [point, Point.inLoop]) (fun _ => drained)
      (fun reading _ => finished reading rfl) trivial (Or.inl rc)
  next goesOn =>
    refine asserts.goto asserts.orderly asserts.answered rfl between ?_
      (by simp [point, Point.inLoop]) (fun _ => drained)
      (fun reading _ => finished reading rfl) trivial (Or.inl rc)
    rw [Switched, if_neg goesOn]
    exact on

theorem Asserts.driver_disable (asserts : Asserts size line exchange)
    (point : exchange.master.point = .disable) :
    Asserts size line exchange.driver := by
  have rc := asserts.rc_eq_zero (by simp [point]) (by simp [point])
  have between := asserts.between (by simp [point]) (by simp [point])
    (by simp [point])
  have drained := asserts.drained (by simp [point, Point.after])
  have finished := asserts.finished
  have switched := asserts.switched
  rw [point] at switched finished
  rw [Exchange.driver, point]
  dsimp only
  refine asserts.goto ⟨fun _ => ⟨drained, between.rxEmpty, ?_⟩,
    asserts.orderly.off⟩ asserts.answered rfl
    ⟨between.rxEmpty, between.writes, between.fetched⟩ ⟨switched.1, rfl⟩
    (by simp [point, Point.inLoop]) (fun _ => drained)
    (fun reading _ => finished reading rfl) trivial (Or.inl rc)
  intro command shifted
  apply between.writes
  exact List.mem_append_left _ (Option.mem_toList.mpr shifted)

theorem Asserts.driver_poll (asserts : Asserts size line exchange)
    {left : Nat} (point : exchange.master.point = .poll left) :
    Asserts size line exchange.driver := by
  have rc := asserts.rc_eq_zero (by simp [point]) (by simp [point])
  have between := asserts.between (by simp [point]) (by simp [point])
    (by simp [point])
  have drained := asserts.drained (by simp [point, Point.after])
  have finished := asserts.finished
  have switched := asserts.switched
  rw [point] at switched finished
  have tested : Asserts size line (exchange.goto .testDisabled) :=
    asserts.goto asserts.orderly asserts.answered rfl between switched
      (by simp [point, Point.inLoop]) (fun _ => drained)
      (fun reading _ => finished reading rfl) trivial (Or.inl rc)
  rw [Exchange.driver, point]
  dsimp only
  split
  next =>
    cases left with
    | zero => exact tested
    | succ left =>
        exact asserts.goto asserts.orderly asserts.answered rfl between switched
          (by simp [point, Point.inLoop]) (fun _ => drained)
          (fun reading _ => finished reading rfl) trivial (Or.inl rc)
  next => exact tested

theorem Asserts.driver_testDisabled (asserts : Asserts size line exchange)
    (point : exchange.master.point = .testDisabled) :
    Asserts size line exchange.driver := by
  have rc := asserts.rc_eq_zero (by simp [point]) (by simp [point])
  have between := asserts.between (by simp [point]) (by simp [point])
    (by simp [point])
  have drained := asserts.drained (by simp [point, Point.after])
  have finished := asserts.finished
  have switched := asserts.switched
  have counted := asserts.counted
  rw [point] at switched finished counted
  rw [Exchange.driver, point]
  refine ⟨asserts.orderly, asserts.answered, asserts.bytes, between, ?_,
    counted, fun _ => drained, fun reading _ => finished reading rfl, trivial,
    asserts.written, ?_⟩
  · simp only [Switched, if_pos switched.1]
    refine ⟨switched.2, ?_⟩
    cases enabled : exchange.controller.enabled with
    | false => exact fun _ => rfl
    | true => simp [ebusy]
  · cases exchange.controller.enabled with
    | false => exact Or.inl rc
    | true => exact Or.inr ⟨rfl, switched.1, Or.inl rfl⟩

theorem Asserts.driver_clearAborted (asserts : Asserts size line exchange)
    (point : exchange.master.point = .clearAborted) :
    Asserts size line exchange.driver := by
  have between := asserts.between (by simp [point]) (by simp [point])
    (by simp [point])
  have drained := asserts.drained (by simp [point, Point.after])
  have finished := asserts.finished
  have switched := asserts.switched
  rw [point] at switched finished
  have rc : exchange.master.rc = 0 ∨ exchange.master.rc = ebusy ∧
      exchange.master.stop = true ∧
        (Point.returned = .clearAborted ∨ Point.returned = .returned) := by
    rcases asserts.rc with zero | ⟨busy, stops, -⟩
    · exact Or.inl zero
    · exact Or.inr ⟨busy, stops, Or.inr rfl⟩
  rw [Exchange.driver, point]
  dsimp only
  exact asserts.goto ⟨asserts.orderly.kept, asserts.orderly.off⟩ rfl rfl
    ⟨between.rxEmpty, between.writes, between.fetched⟩ switched
    (by simp [point, Point.inLoop]) (fun _ => drained)
    (fun reading _ => finished reading rfl) trivial rc

end Return

/-- A step of the driver leads from one assertion to the next. -/
theorem Asserts.driver (several : 0 < size)
    (asserts : Asserts size line exchange) :
    Asserts size line exchange.driver := by
  cases point : exchange.master.point with
  | testEnabled => exact asserts.driver_testEnabled point
  | awaitEnabled => exact asserts.driver_awaitEnabled point
  | clearInterrupts => exact asserts.driver_clearInterrupts point
  | testWriteLen => exact asserts.driver_testWriteLen point
  | awaitNotFull => exact asserts.driver_awaitNotFull point
  | writeData => exact asserts.driver_writeData point
  | awaitEmpty => exact asserts.driver_awaitEmpty point
  | testAborted => exact asserts.driver_testAborted point
  | testReadLen => exact asserts.driver_testReadLen several point
  | writeCommand => exact asserts.driver_writeCommand point
  | awaitData => exact asserts.driver_awaitData point
  | testDataAborted => exact asserts.driver_testDataAborted point
  | readData => exact asserts.driver_readData point
  | testStop => exact asserts.driver_testStop point
  | disable => exact asserts.driver_disable point
  | poll => exact asserts.driver_poll point
  | testDisabled => exact asserts.driver_testDisabled point
  | clearAborted => exact asserts.driver_clearAborted point
  | returned =>
      rw [Exchange.driver, point]
      exact asserts

end Driver

section Run

variable {slave : Slave Memory} {size : Nat}

theorem wire_driver (exchange : Exchange Memory) :
    exchange.driver.controller.wire = exchange.controller.wire := by
  unfold Exchange.driver Controller.push
  dsimp only
  repeat' split
  all_goals rfl

/-- Whatever is still planned, and every assertion, holds wherever driver and
controller have got to. -/
theorem asserts_run (several : 0 < size) {initial : Exchange Memory}
    (asserts : Asserts size [] initial) {moves : List Move}
    (acked : Acked moves) :
    Asserts size ((machine slave).trace initial moves)
        ((machine slave).exec initial moves) ∧
      (machine slave).trace initial moves ++
          ((machine slave).exec initial moves).planned slave =
        initial.planned slave ∧
      ((machine slave).exec initial moves).controller.wire =
        ((machine slave).trace initial moves).foldl (Wire.see slave)
          initial.controller.wire := by
  refine (machine slave).historyInvariant (· ≠ .controller false)
    (fun line exchange => Asserts size line exchange ∧
      line ++ exchange.planned slave = initial.planned slave ∧
      exchange.controller.wire =
        line.foldl (Wire.see slave) initial.controller.wire) ?_ initial
    ⟨asserts, rfl, rfl⟩ moves acked
  intro line exchange move admitted holds
  obtain ⟨asserts, planned, wire⟩ := holds
  cases move with
  | driver =>
      refine ⟨?_, ?_, ?_⟩
      · simpa [machine] using asserts.driver several
      · simpa [machine, planned_driver asserts.answered] using planned
      · simpa [machine, wire_driver] using wire
  | controller acked =>
      cases acked with
      | false => exact absurd rfl admitted
      | true =>
          refine ⟨asserts.advance, ?_, ?_⟩
          rotate_left
          · simp only [machine, List.foldl_append, ← wire]
            exact exchange.controller.wire_advance true
          have event := @Controller.event_planned _ slave _ asserts.orderly
            exchange.master.remaining
          simp only [machine, List.append_assoc]
          exact (congrArg (line ++ ·) event).trans planned

/-- Nothing is under way. -/
structure Ready (controller : Controller Memory) : Prop where
  orderly : controller.Orderly
  answered : controller.aborted = false
  agreed : controller.enable = controller.enabled
  rxEmpty : controller.rxFifo = []
  empty : controller.pending = []
  still : controller.stopping = false
  direction : controller.direction = none

/-- A register address may be on its way. -/
structure Addressed (controller : Controller Memory) : Prop where
  orderly : controller.Orderly
  answered : controller.aborted = false
  agreed : controller.enable = controller.enabled
  rxEmpty : controller.rxFifo = []
  writes : ∀ command ∈ controller.pending, command.direction = .write

theorem Ready.addressed {controller : Controller Memory}
    (ready : Ready controller) : Addressed controller :=
  ⟨ready.orderly, ready.answered, ready.agreed, ready.rxEmpty,
    by simp [ready.empty]⟩

theorem asserts_write {controller : Controller Memory}
    (addressed : Addressed controller) (data : List UInt8) (stop : Bool) :
    Asserts size [] ⟨.write data stop, controller⟩ where
  orderly := addressed.orderly
  answered := addressed.answered
  bytes := addressed.rxEmpty.symm
  queued := ⟨addressed.rxEmpty, addressed.writes, by simp [Master.write]⟩
  switched := addressed.agreed
  counted := by simp [Master.write]
  drained := by simp [Master.write, Point.after]
  finished := by simp [Master.write]
  path := trivial
  written := fun _ => rfl
  rc := Or.inl rfl

theorem asserts_read {controller : Controller Memory}
    (addressed : Addressed controller) (stop : Bool) :
    Asserts size [] ⟨.read size stop, controller⟩ where
  orderly := addressed.orderly
  answered := addressed.answered
  bytes := addressed.rxEmpty.symm
  queued := ⟨addressed.rxEmpty, addressed.writes, by simp [Master.read]⟩
  switched := addressed.agreed
  counted := by simp [Master.read, Point.inLoop]
  drained := by simp [Master.read, Point.after]
  finished := by simp [Master.read, Point.after]
  path := trivial
  written := fun _ => rfl
  rc := Or.inl rfl

theorem task_driver (exchange : Exchange Memory) :
    exchange.driver.master.stop = exchange.master.stop ∧
      exchange.driver.master.reading = exchange.master.reading := by
  unfold Exchange.driver
  dsimp only
  repeat' split
  all_goals exact ⟨rfl, rfl⟩

theorem task_run (initial : Exchange Memory) (moves : List Move) :
    ((machine slave).exec initial moves).master.stop = initial.master.stop ∧
      ((machine slave).exec initial moves).master.reading =
        initial.master.reading := by
  refine (machine slave).invariant
    (fun exchange => exchange.master.stop = initial.master.stop ∧
      exchange.master.reading = initial.master.reading) ?_ initial
    ⟨rfl, rfl⟩ moves
  intro exchange move same
  cases move with
  | driver =>
      obtain ⟨stop, reading⟩ := task_driver exchange
      exact ⟨stop.trans same.1, reading.trans same.2⟩
  | controller => exact same

/-- How a call without a stop condition returns: its last command may still be
under way. -/
theorem addressed_of_returned {line : List Event} {exchange : Exchange Memory}
    (asserts : Asserts size line exchange)
    (returned : exchange.master.point = .returned)
    (goesOn : exchange.master.stop = false) :
    exchange.master.rc = 0 ∧ Addressed exchange.controller := by
  have between := asserts.between (by simp [returned]) (by simp [returned])
    (by simp [returned])
  have on := asserts.switched
  rw [returned, Switched, goesOn, if_neg Bool.false_ne_true] at on
  refine ⟨?_, asserts.orderly, asserts.answered, on.1.trans on.2.symm,
    between.rxEmpty, between.writes⟩
  rcases asserts.rc with zero | ⟨-, stops, -⟩
  · exact zero
  · rw [goesOn] at stops
    exact absurd stops Bool.false_ne_true

end Run

end Assertions

end I2C

end QuarkMeteoStation
