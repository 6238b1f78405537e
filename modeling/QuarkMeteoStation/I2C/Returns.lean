import QuarkMeteoStation.I2C.Refusals
import QuarkMeteoStation.Library.Progress

namespace QuarkMeteoStation

open Library

namespace I2C

universe u

/-! The calls come back: whichever of driver and controller waits for the other,
the other can go on, whatever the slave refuses. -/

namespace Controller

variable {Memory : Type u} {slave : Slave Memory}
variable {controller : Controller Memory} {acked : Bool}

def commandLeft (shift : Option Command) (direction : Option Direction) :
    Nat :=
  match shift with
  | none => 0
  | some command => if direction = some command.direction then 4 else 5

/-- The steps the controller has yet to take, and a few more. -/
def left (controller : Controller Memory) : Nat :=
  2 * controller.stopping.toNat +
    commandLeft controller.shift controller.direction +
      6 * controller.txFifo.length +
        (controller.enable != controller.enabled).toNat

def moves (controller : Controller Memory) : Bool :=
  controller.stopping || controller.shift.isSome ||
    (controller.enable != controller.enabled) ||
      (controller.enabled && !controller.txFifo.isEmpty)

theorem commandLeft_none_le (shift : Option Command)
    (direction : Option Direction) :
    commandLeft shift none ≤ commandLeft shift direction + 1 := by
  cases shift with
  | none => exact Nat.zero_le _
  | some command =>
      unfold commandLeft
      dsimp only
      split <;> split <;> simp

theorem commandLeft_some_le (command : Command)
    (direction : Option Direction) :
    commandLeft (some command) direction ≤ 5 := by
  unfold commandLeft
  dsimp only
  split <;> simp

theorem left_stopping (stopping : controller.stopping = true) :
    (controller.advance slave acked).left < controller.left := by
  have shift := commandLeft_none_le controller.shift controller.direction
  simp only [advance, stopping, if_true, left, Bool.toNat_true,
    Bool.toNat_false]
  omega

theorem left_abort {command : Command}
    (shifted : controller.shift = some command) :
    (controller.abort slave).left < controller.left := by
  have shift : 4 ≤ commandLeft controller.shift controller.direction := by
    rw [shifted, commandLeft]
    split <;> simp
  simp only [abort, left, commandLeft, List.length_nil, Bool.toNat_true]
  simp only [commandLeft] at shift
  omega

theorem left_execute (still : controller.stopping = false)
    {command : Command} (shifted : controller.shift = some command) :
    (controller.advance slave acked).left < controller.left := by
  rw [advance_of_shift still shifted]
  have refused := @left_abort _ slave _ _ shifted
  unfold execute
  by_cases same : controller.direction = some command.direction
  · rw [if_pos same]
    have stopBound (stop : Bool) : 2 * stop.toNat < 4 := by
      cases stop <;> decide
    cases command with
    | write byte stop =>
        have bound := stopBound stop
        dsimp only
        split
        · simp [left, commandLeft, still, shifted, same]
          omega
        · exact refused
    | read stop =>
        have bound := stopBound stop
        simp [left, commandLeft, still, shifted, same]
        omega
  · rw [if_neg same]
    split
    · simp [left, commandLeft, shifted, still, same]
    · exact refused

theorem left_fetch (still : controller.stopping = false)
    (idle : controller.shift = none) :
    (controller.moves = true → controller.fetch.left < controller.left) ∧
      (controller.moves = false → controller.fetch = controller) := by
  unfold fetch
  split
  next off on =>
    refine ⟨fun _ => ?_, fun rests => ?_⟩
    · simp [left, commandLeft, still, idle, off, on]
    · simp [moves, off, on] at rests
  next on off =>
    refine ⟨fun _ => ?_, fun rests => ?_⟩
    · simp [left, commandLeft, still, idle, off, on]
    · simp [moves, off, on] at rests
  next command rest on enabled queued =>
    refine ⟨fun _ => ?_, fun rests => ?_⟩
    · have shift := commandLeft_some_le command controller.direction
      simp only [left, still, idle, queued, List.length_cons, Bool.toNat_false]
      simp only [commandLeft] at *
      omega
    · simp [moves, on, enabled, queued] at rests
  next off on queued =>
    refine ⟨fun busy => ?_, fun _ => rfl⟩
    exfalso
    cases enable : controller.enable <;> cases enabled : controller.enabled
    · simp [moves, still, idle, enable, enabled] at busy
    · exact off enable enabled
    · exact on enable enabled
    · cases fifo : controller.txFifo with
      | nil => simp [moves, still, idle, enable, enabled, fifo] at busy
      | cons command rest => exact queued _ _ enable enabled fifo

/-- A step of the controller is one fewer, or there is none to take. -/
theorem left_advance :
    (controller.moves = true →
        (controller.advance slave acked).left < controller.left) ∧
      (controller.moves = false →
        controller.advance slave acked = controller) := by
  cases stopping : controller.stopping with
  | true =>
      refine ⟨fun _ => left_stopping stopping, fun rests => ?_⟩
      simp [moves, stopping] at rests
  | false =>
      cases shifted : controller.shift with
      | some command =>
          refine ⟨fun _ => left_execute stopping shifted, fun rests => ?_⟩
          simp [moves, shifted] at rests
      | none =>
          rw [advance_of_idle stopping shifted]
          exact left_fetch stopping shifted

end Controller

/-- The steps the call has yet to take, and a few more. -/
def Master.left (master : Master) : Nat :=
  11 * master.len + 9 * master.data.length +
    match master.point with
    | .testEnabled => pollCount + 13
    | .awaitEnabled => pollCount + 11
    | .clearInterrupts => pollCount + 10
    | .testWriteLen => pollCount + 9
    | .awaitNotFull => pollCount + 8
    | .writeData => pollCount + 7
    | .awaitEmpty => pollCount + 8
    | .testAborted => pollCount + 7
    | .testReadLen => pollCount + 7
    | .writeCommand => pollCount + 17
    | .awaitData => pollCount + 10
    | .testDataAborted => pollCount + 9
    | .readData => pollCount + 8
    | .testStop => pollCount + 6
    | .disable => pollCount + 5
    | .poll left => left + 3
    | .testDisabled => 2
    | .clearAborted => 1
    | .returned => 0

theorem Master.left_write (data : List UInt8) (stop : Bool) :
    (Master.write data stop).left = 9 * data.length + (pollCount + 13) := by
  simp only [left, Master.write, Nat.mul_zero, Nat.zero_add]

theorem Master.left_read (len : Nat) (stop : Bool) :
    (Master.read len stop).left = 11 * len + (pollCount + 13) := by
  simp only [left, Master.read, List.length_nil, Nat.mul_zero, Nat.add_zero]

section Exchange

variable {Memory : Type u} {slave : Slave Memory} {size : Nat}
variable {exchange : Exchange Memory}

def Exchange.left (exchange : Exchange Memory) : Nat :=
  exchange.master.left + exchange.controller.left

theorem left_push (controller : Controller Memory) (command : Command) :
    (controller.push command).left ≤ controller.left + 6 := by
  unfold Controller.push
  split
  · omega
  · simp only [Controller.left, List.length_append, List.length_singleton]
    omega

theorem left_enable (controller : Controller Memory) (enable : Bool) :
    { controller with enable := enable }.left ≤ controller.left + 1 := by
  have bit : (enable != controller.enabled).toNat ≤ 1 := Bool.toNat_le _
  simp only [Controller.left]
  omega

/-- The driver stays where it is until the controller has gone on. -/
def Exchange.Waits (exchange : Exchange Memory) : Prop :=
  match exchange.master.point with
  | .awaitEnabled => exchange.controller.enabled = false
  | .awaitNotFull => fifoSize ≤ exchange.controller.txFifo.length
  | .writeData => exchange.master.data = []
  | .awaitEmpty => exchange.controller.txFifo ≠ []
  | .awaitData =>
      exchange.controller.rxFifo = [] ∧ exchange.controller.aborted = false
  | .returned => True
  | _ => False

theorem driver_of_waits (waits : exchange.Waits) :
    exchange.driver = exchange := by
  unfold Exchange.Waits at waits
  split at waits
  next point => simp [Exchange.driver, point, waits]
  next point => simp [Exchange.driver, point, Nat.not_lt.mpr waits]
  next point => simp [Exchange.driver, point, waits]
  next point => simp [Exchange.driver, point, waits]
  next point => simp [Exchange.driver, point, waits]
  next point => simp [Exchange.driver, point]
  next => exact waits.elim

/-- Where the driver does not wait, it has one step fewer to take. -/
theorem left_driver (goesOn : ¬exchange.Waits) :
    exchange.driver.left < exchange.left := by
  unfold Exchange.Waits at goesOn
  cases point : exchange.master.point with
  | testEnabled =>
      have enable := left_enable exchange.controller true
      rw [Exchange.driver, point]
      dsimp only
      split <;> simp only [Exchange.left, Exchange.goto, Master.left, point] <;>
        omega
  | clearInterrupts =>
      rw [Exchange.driver, point]
      dsimp only
      split <;> simp [Exchange.left, Exchange.goto, Master.left, point,
        Controller.left]
  | testWriteLen =>
      rw [Exchange.driver, point]
      dsimp only
      split <;> simp [Exchange.left, Exchange.goto, Master.left, point]
  | writeData =>
      cases data : exchange.master.data with
      | nil => simp [point, data] at goesOn
      | cons byte rest =>
          have push := left_push exchange.controller
            (.write byte (rest = [] && exchange.master.stop))
          simp only [Exchange.driver, point, data, Exchange.left, Master.left,
            List.length_cons]
          omega
  | testReadLen =>
      cases len : exchange.master.len with
      | zero =>
          simp [Exchange.driver, Exchange.left, Exchange.goto, Master.left,
            point, len]
      | succ len =>
          simp only [Exchange.driver, Exchange.left, Master.left, point, len]
          omega
  | writeCommand =>
      have push := left_push exchange.controller
        (.read (exchange.master.len = 0 && exchange.master.stop))
      simp only [Exchange.driver, Exchange.left, Exchange.goto, Master.left,
        point]
      omega
  | testStop =>
      cases stop : exchange.master.stop <;>
        simp [Exchange.driver, Exchange.left, Exchange.goto, Master.left,
          point, stop]
  | disable =>
      have enable := left_enable exchange.controller false
      simp only [Exchange.driver, Exchange.left, Exchange.goto, Master.left,
        point]
      omega
  | awaitEnabled =>
      rw [point] at goesOn
      have on : exchange.controller.enabled = true := by simpa using goesOn
      simp [Exchange.driver, point, on, Exchange.left, Exchange.goto,
        Master.left]
  | awaitNotFull =>
      rw [point] at goesOn
      simp [Exchange.driver, point, Nat.lt_of_not_le goesOn, Exchange.left,
        Exchange.goto, Master.left]
  | awaitEmpty =>
      rw [point] at goesOn
      simp [Exchange.driver, point, not_not.mp goesOn, Exchange.left,
        Exchange.goto, Master.left]
  | awaitData =>
      rw [point] at goesOn
      have given : exchange.controller.rxFifo ≠ [] ∨
          exchange.controller.aborted = true := by
        rcases Decidable.not_and_iff_or_not.mp goesOn with given | aborted
        · exact Or.inl given
        · exact Or.inr (by simpa using aborted)
      simp [Exchange.driver, point, given, Exchange.left, Exchange.goto,
        Master.left]
  | poll left =>
      rw [Exchange.driver, point]
      dsimp only
      split
      · cases left <;>
          simp [Exchange.left, Exchange.goto, Master.left, point]
      · simp [Exchange.left, Exchange.goto, Master.left, point]
  | testAborted | testDataAborted | readData | testDisabled | clearAborted =>
      rw [Exchange.driver, point]
      dsimp only
      repeat' split
      all_goals simp [Exchange.left, Exchange.goto, Master.left, point,
        Controller.left]
  | returned => simp [point] at goesOn


/-- A byte to read will come, or never will. -/
def Awaited (controller : Controller Memory) : Prop :=
  controller.aborted = true ∨ controller.rxFifo ≠ [] ∨
    ∃ stop, .read stop ∈ controller.pending

theorem Awaited.execute {controller : Controller Memory} {command : Command}
    (shifted : controller.shift = some command) (acked : Bool)
    (awaited : Awaited controller) :
    Awaited (controller.execute slave acked command) := by
  unfold Controller.execute
  by_cases same : controller.direction = some command.direction
  · rw [if_pos same]
    cases command with
    | write byte stop =>
        cases acked with
        | false => exact Or.inl rfl
        | true =>
            rcases awaited with aborted | given | ⟨stop, member⟩
            · exact Or.inl aborted
            · exact Or.inr (Or.inl given)
            · refine Or.inr (Or.inr ⟨stop, ?_⟩)
              simpa [Controller.pending, shifted] using member
    | read stop => exact Or.inr (Or.inl (by simp))
  · rw [if_neg same]
    cases acked with
    | false => exact Or.inl rfl
    | true => exact awaited

theorem Awaited.advance {controller : Controller Memory} (on : On controller)
    (acked : Bool) (awaited : Awaited controller) :
    Awaited (controller.advance slave acked) := by
  cases stopping : controller.stopping with
  | true =>
      rw [Controller.advance, if_pos stopping]
      exact awaited
  | false =>
      cases shifted : controller.shift with
      | some command =>
          rw [Controller.advance_of_shift stopping shifted]
          exact awaited.execute shifted acked
      | none =>
          rw [Controller.advance_of_idle stopping shifted]
          unfold Controller.fetch
          split
          next off _ => simp [on.1] at off
          next => exact awaited
          next queued =>
            rcases awaited with aborted | given | ⟨stop, member⟩
            · exact Or.inl aborted
            · exact Or.inr (Or.inl given)
            · refine Or.inr (Or.inr ⟨stop, ?_⟩)
              simpa [Controller.pending, shifted, queued] using member
          next => exact awaited

/-- What keeps a call going, whatever the slave refuses. -/
structure Underway (exchange : Exchange Memory) : Prop where
  switched : Switched exchange.master.point exchange.master.stop
    exchange.master.rc exchange.controller
  path : Path exchange.master.point exchange.master.reading
  supplied : exchange.master.point = .awaitNotFull ∨
    exchange.master.point = .writeData → exchange.master.data ≠ []
  awaited : exchange.master.point = .awaitData → Awaited exchange.controller
  drained : exchange.master.reading = false →
    exchange.master.point.after = true → exchange.controller.txFifo = []

theorem Underway.advance (underway : Underway exchange) (acked : Bool) :
    Underway { exchange with
      controller := exchange.controller.advance slave acked } := by
  obtain ⟨switched, path, supplied, awaited, drained⟩ := underway
  refine ⟨switched.advance acked, path, supplied, fun point => ?_,
    fun writing after => Controller.txFifo_advance (drained writing after)⟩
  rw [show exchange.master.point = .awaitData from point] at switched
  exact (awaited point).advance switched acked

theorem on_push_any {controller : Controller Memory} (on : On controller)
    (command : Command) : On (controller.push command) := by
  unfold Controller.push
  split
  next => exact on
  next => exact on

theorem awaited_push (controller : Controller Memory) (stop : Bool) :
    Awaited (controller.push (.read stop)) := by
  cases aborted : controller.aborted with
  | true =>
      left
      simp [Controller.push, aborted]
  | false =>
      refine Or.inr (Or.inr ⟨stop, ?_⟩)
      rw [pending_push aborted]
      exact List.mem_append_right _ List.mem_cons_self

/-- A step that stays in the loop of its call, or leads into it. -/
theorem Underway.driver_loop (underway : Underway exchange)
    (before : exchange.master.point.after = false) :
    Underway exchange.driver := by
  obtain ⟨switched, path, supplied, awaited, drained⟩ := underway
  have same : Underway exchange :=
    ⟨switched, path, supplied, awaited, drained⟩
  cases point : exchange.master.point with
  | testEnabled =>
      rw [point] at switched
      rw [Exchange.driver, point]
      dsimp only
      split
      next on =>
        exact ⟨⟨switched.trans on, on⟩, trivial, by simp [Exchange.goto],
          by simp [Exchange.goto], by simp [Exchange.goto, Point.after]⟩
      next =>
        exact ⟨rfl, trivial, by simp [Exchange.goto], by simp [Exchange.goto],
          by simp [Exchange.goto, Point.after]⟩
  | awaitEnabled =>
      rw [point] at switched
      rw [Exchange.driver, point]
      dsimp only
      split
      next on =>
        exact ⟨⟨switched, on⟩, trivial, by simp [Exchange.goto],
          by simp [Exchange.goto], by simp [Exchange.goto, Point.after]⟩
      next => exact same
  | clearInterrupts =>
      rw [point] at switched
      rw [Exchange.driver, point]
      dsimp only
      split
      next reading =>
        exact ⟨switched, reading, by simp [Exchange.goto],
          by simp [Exchange.goto], by simp [Exchange.goto, Point.after]⟩
      next writing =>
        exact ⟨switched, by simpa [Exchange.goto, Path] using writing,
          by simp [Exchange.goto], by simp [Exchange.goto],
          by simp [Exchange.goto, Point.after]⟩
  | testWriteLen =>
      rw [point] at switched path
      rw [Exchange.driver, point]
      dsimp only
      split
      next =>
        exact ⟨switched, path, by simp [Exchange.goto], by simp [Exchange.goto],
          by simp [Exchange.goto, Point.after]⟩
      next more =>
        exact ⟨switched, path, fun _ => more, by simp [Exchange.goto],
          by simp [Exchange.goto, Point.after]⟩
  | awaitNotFull =>
      have more := supplied (Or.inl point)
      rw [point] at switched path
      rw [Exchange.driver, point]
      dsimp only
      split
      next =>
        exact ⟨switched, path, fun _ => more, by simp [Exchange.goto],
          by simp [Exchange.goto, Point.after]⟩
      next => exact same
  | writeData =>
      rw [point] at switched path
      rw [Exchange.driver, point]
      dsimp only
      split
      next => exact same
      next =>
        exact ⟨on_push_any switched _, path, by simp, by simp,
          by simp [Point.after]⟩
  | awaitEmpty =>
      rw [point] at switched path
      rw [Exchange.driver, point]
      dsimp only
      split
      next empty =>
        exact ⟨switched, path, by simp [Exchange.goto], by simp [Exchange.goto],
          fun _ _ => empty⟩
      next => exact same
  | testReadLen =>
      rw [point] at switched path
      rw [Exchange.driver, point]
      dsimp only
      split
      next =>
        exact ⟨switched, trivial, by simp [Exchange.goto],
          by simp [Exchange.goto],
          fun writing => Bool.noConfusion (writing.symm.trans path)⟩
      next =>
        exact ⟨switched, path, by simp, by simp, by simp [Point.after]⟩
  | writeCommand =>
      rw [point] at switched path
      rw [Exchange.driver, point]
      exact ⟨on_push_any switched _, path, by simp [Exchange.goto],
        fun _ => awaited_push _ _, by simp [Exchange.goto, Point.after]⟩
  | awaitData =>
      rw [point] at switched path
      rw [Exchange.driver, point]
      dsimp only
      split
      next =>
        exact ⟨switched, path, by simp [Exchange.goto], by simp [Exchange.goto],
          by simp [Exchange.goto, Point.after]⟩
      next => exact same
  | testDataAborted =>
      rw [point] at switched path
      rw [Exchange.driver, point]
      dsimp only
      split
      next =>
        exact ⟨switched, trivial, by simp, by simp,
          fun writing => Bool.noConfusion (writing.symm.trans path)⟩
      next =>
        exact ⟨switched, path, by simp [Exchange.goto], by simp [Exchange.goto],
          by simp [Exchange.goto, Point.after]⟩
  | readData =>
      rw [point] at switched path
      rw [Exchange.driver, point]
      exact ⟨switched, path, by simp, by simp, by simp [Point.after]⟩
  | _ => simp [point, Point.after] at before

/-- A step after the loop leaves the transmit FIFO as it is. -/
theorem Underway.driver_after (underway : Underway exchange)
    (after : exchange.master.point.after = true) :
    Underway exchange.driver := by
  obtain ⟨switched, path, supplied, awaited, drained⟩ := underway
  have empty (writing : exchange.master.reading = false) :
      exchange.controller.txFifo = [] := drained writing after
  cases point : exchange.master.point with
  | testAborted =>
      rw [point] at switched
      rw [Exchange.driver, point]
      exact ⟨switched, trivial, by simp, by simp, fun writing _ => empty writing⟩
  | testStop =>
      rw [point] at switched
      rw [Exchange.driver, point]
      dsimp only
      split
      next stops =>
        exact ⟨⟨stops, switched⟩, trivial, by simp [Exchange.goto],
          by simp [Exchange.goto], fun writing _ => empty writing⟩
      next goesOn =>
        refine ⟨?_, trivial, by simp [Exchange.goto], by simp [Exchange.goto],
          fun writing _ => empty writing⟩
        change if exchange.master.stop = true then _ else On exchange.controller
        rw [if_neg goesOn]
        exact switched
  | disable =>
      rw [point] at switched
      rw [Exchange.driver, point]
      exact ⟨⟨switched.1, rfl⟩, trivial, by simp [Exchange.goto],
        by simp [Exchange.goto], fun writing _ => empty writing⟩
  | poll left =>
      rw [point] at switched
      rw [Exchange.driver, point]
      dsimp only
      repeat' split
      all_goals exact ⟨switched, trivial, by simp [Exchange.goto],
        by simp [Exchange.goto], fun writing _ => empty writing⟩
  | testDisabled =>
      rw [point] at switched
      rw [Exchange.driver, point]
      refine ⟨?_, trivial, by simp, by simp, fun writing _ => empty writing⟩
      simp only [Switched, if_pos switched.1]
      refine ⟨switched.2, ?_⟩
      cases enabled : exchange.controller.enabled with
      | false => exact fun _ => rfl
      | true => simp [ebusy]
  | clearAborted =>
      rw [point] at switched
      rw [Exchange.driver, point]
      exact ⟨switched, trivial, by simp [Exchange.goto], by simp [Exchange.goto],
        fun writing _ => empty writing⟩
  | returned =>
      rw [Exchange.driver, point]
      exact ⟨switched, path, supplied, awaited, drained⟩
  | _ => simp [point, Point.after] at after

theorem Underway.driver (underway : Underway exchange) :
    Underway exchange.driver := by
  cases after : exchange.master.point.after with
  | false => exact underway.driver_loop after
  | true => exact underway.driver_after after

theorem Controller.rests {controller : Controller Memory}
    (rests : controller.moves = false) :
    controller.shift = none ∧ controller.enabled = controller.enable ∧
      (controller.enabled = true → controller.txFifo = []) := by
  cases shifted : controller.shift with
  | some command => simp [Controller.moves, shifted] at rests
  | none =>
      simp only [Controller.moves, shifted, Option.isSome_none,
        Bool.or_false, Bool.or_eq_false_iff, bne_eq_false_iff_eq] at rests
      refine ⟨rfl, rests.1.2.symm, fun on => ?_⟩
      simpa [on] using rests.2

/-- Where the controller has nothing to do, the driver need not wait. -/
theorem Underway.goesOn (underway : Underway exchange)
    (rests : exchange.controller.moves = false)
    (unfinished : exchange.master.point ≠ .returned) : ¬exchange.Waits := by
  intro waits
  obtain ⟨idle, agreed, drained⟩ := Controller.rests rests
  have switched := underway.switched
  unfold Exchange.Waits at waits
  split at waits
  next point =>
    rw [point] at switched
    simp [agreed.trans switched] at waits
  next point =>
    rw [point] at switched
    simp [drained switched.2, fifoSize] at waits
  next point => exact underway.supplied (Or.inr point) waits
  next point =>
    rw [point] at switched
    exact waits (drained switched.2)
  next point =>
    rw [point] at switched
    rcases underway.awaited point with aborted | given | ⟨stop, member⟩
    · simp [waits.2] at aborted
    · exact given waits.1
    · simp [Controller.pending, idle, drained switched.2] at member
  next point => exact unfinished point
  next => exact waits

theorem left_eq_zero (none : exchange.left = 0) :
    exchange.master.point = .returned := by
  cases point : exchange.master.point with
  | returned => rfl
  | _ => simp [Exchange.left, Master.left, point] at none

theorem left_controller (controller : Controller Memory) (acked : Bool)
    (moves : controller.moves = true) :
    Exchange.left { exchange with
      controller := controller.advance slave acked } <
        Exchange.left { exchange with controller := controller } :=
  Nat.add_lt_add_left (Controller.left_advance.1 moves) _

def Move.isController : Move → Bool
  | driver => false
  | controller _ => true

def progress (slave : Slave Memory) :
    (machine slave).Progress (fun exchange =>
      exchange.master.point = .returned) Exchange.left Underway where
  party := fun exchange move =>
    move.isController = exchange.controller.moves
  preserved := by
    intro exchange move underway
    cases move with
    | driver => exact underway.driver
    | controller acked => exact underway.advance acked
  moves := by
    intro exchange move underway unfinished party
    cases move with
    | driver => exact left_driver (underway.goesOn party.symm unfinished)
    | controller acked =>
        exact left_controller exchange.controller acked party.symm
  idles := by
    intro exchange move _
    cases move with
    | driver =>
        by_cases waits : exchange.Waits
        · exact Or.inr (driver_of_waits waits)
        · exact Or.inl (left_driver waits)
    | controller acked =>
        cases moves : exchange.controller.moves with
        | true => exact Or.inl (left_controller exchange.controller acked moves)
        | false =>
            right
            have same := (@Controller.left_advance _ slave _ acked).2 moves
            simp only [machine, same]
  finished := fun _ _ none => left_eq_zero none
  stays := by
    intro exchange move _ done
    cases move with
    | driver =>
        have waits : exchange.Waits := by simp [Exchange.Waits, done]
        have same := driver_of_waits waits
        simp only [machine, same, done]
    | controller => exact done

/-- Driver and controller each have a turn in every round. -/
def Fair (rounds : List (List Move)) : Prop :=
  ∀ round ∈ rounds, .driver ∈ round ∧ ∃ acked, .controller acked ∈ round

theorem returned_of_rounds (underway : Underway exchange)
    {rounds : List (List Move)} (fair : Fair rounds)
    (enough : exchange.left ≤ rounds.length) :
    ((machine slave).exec exchange rounds.flatten).master.point =
      .returned := by
  apply (progress slave).done_of_rounds underway _ enough
  intro round member exchange
  obtain ⟨driver, acked, controller⟩ := fair round member
  cases moves : exchange.controller.moves with
  | false => exact ⟨.driver, driver, moves.symm⟩
  | true => exact ⟨.controller acked, controller, moves.symm⟩

end Exchange

section Access

variable {Memory : Type u} {slave : Slave Memory}
variable {controller : Controller Memory}

theorem underway_write (agreed : controller.enable = controller.enabled)
    (data : List UInt8) (stop : Bool) :
    Underway ⟨.write data stop, controller⟩ :=
  ⟨agreed, trivial, by simp [Master.write], by simp [Master.write],
    by simp [Master.write, Point.after]⟩

theorem underway_read (agreed : controller.enable = controller.enabled)
    (len : Nat) (stop : Bool) : Underway ⟨.read len stop, controller⟩ :=
  ⟨agreed, trivial, by simp [Master.read], by simp [Master.read],
    by simp [Master.read]⟩

theorem left_of_ready (ready : Ready controller) : controller.left = 0 := by
  obtain ⟨shift, txFifo⟩ : controller.shift = none ∧ controller.txFifo = [] := by
    have empty := ready.empty
    simpa [Controller.pending] using empty
  simp [Controller.left, Controller.commandLeft, ready.still, shift, txFifo,
    ready.agreed]

/-- A call to write without a stop condition leaves at most its last byte to
do. -/
theorem left_of_returned {exchange : Exchange Memory}
    (underway : Underway exchange)
    (returned : exchange.master.point = .returned)
    (goesOn : exchange.master.stop = false)
    (writing : exchange.master.reading = false) :
    exchange.controller.enable = exchange.controller.enabled ∧
      exchange.controller.left ≤ 7 := by
  have drained := underway.drained writing (by simp [returned, Point.after])
  have on := underway.switched
  rw [returned, Switched, goesOn, if_neg Bool.false_ne_true] at on
  have agreed := on.1.trans on.2.symm
  have stopping : exchange.controller.stopping.toNat ≤ 1 := Bool.toNat_le _
  have shift : Controller.commandLeft exchange.controller.shift
      exchange.controller.direction ≤ 5 := by
    cases exchange.controller.shift with
    | none => exact Nat.zero_le _
    | some command => exact Controller.commandLeft_some_le command _
  refine ⟨agreed, ?_⟩
  simp only [Controller.left, drained, agreed, List.length_nil,
    bne_self_eq_false, Bool.toNat_false]
  omega

/-- Both calls of a register access come back. -/
theorem access_of_rounds (ready : Ready controller) (regAddr : UInt8)
    {call : Master}
    (begins : ∀ controller : Controller Memory,
      controller.enable = controller.enabled → Underway ⟨call, controller⟩)
    {firstRounds secondRounds : List (List Move)} (firstFair : Fair firstRounds)
    (secondFair : Fair secondRounds)
    (firstEnough : pollCount + 22 ≤ firstRounds.length)
    (secondEnough : call.left + 7 ≤ secondRounds.length) :
    ∃ access : Access slave controller regAddr call,
      access.firstMoves = firstRounds.flatten ∧
        access.secondMoves = secondRounds.flatten := by
  have started := underway_write ready.agreed [regAddr] false
  have addressed := @returned_of_rounds _ slave _ started _ firstFair (by
    simp only [Exchange.left, left_of_ready ready, Master.left_write,
      List.length_singleton]
    omega)
  have underway := (machine slave).invariant Underway
    (progress slave).preserved _ started firstRounds.flatten
  obtain ⟨goesOn, writing⟩ := @task_run _ slave
    ⟨.write [regAddr] false, controller⟩ firstRounds.flatten
  obtain ⟨agreed, left⟩ := left_of_returned underway addressed goesOn writing
  have returned := @returned_of_rounds _ slave _ (begins _ agreed) _
    secondFair (by
      simp only [Exchange.left]
      omega)
  exact ⟨⟨_, _, addressed, returned⟩, rfl, rfl⟩

/-- Whatever the slave refuses and however driver and controller take turns,
`I2C_write` comes back. Where it reports no error, and nothing was refused while
it did not look, the register's address and the data went over the bus in one
transfer. -/
theorem write_returns (ready : Ready controller) (regAddr : UInt8)
    {data : List UInt8} (several : data ≠ []) (state : State)
    {firstRounds secondRounds : List (List Move)} (firstFair : Fair firstRounds)
    (secondFair : Fair secondRounds)
    (firstEnough : pollCount + 22 ≤ firstRounds.length)
    (secondEnough :
      9 * data.length + pollCount + 20 ≤ secondRounds.length) :
    ∃ access : Access slave controller regAddr (.write data true),
      access.firstMoves = firstRounds.flatten ∧
        access.secondMoves = secondRounds.flatten ∧
          (access.Heeded →
            (write access.first.master.rc access.second.master.rc
              state).error = .ok →
                access.line = [.start .write, .sent regAddr] ++
                  data.map .sent ++ [.stop]) := by
  have enough : (Master.write data true).left + 7 ≤ secondRounds.length := by
    rw [Master.left_write]
    omega
  obtain ⟨access, firstMoves, secondMoves⟩ := @access_of_rounds _ slave _ ready
    regAddr _ (fun _ agreed => underway_write agreed data true) _ _ firstFair
    secondFair firstEnough enough
  refine ⟨access, firstMoves, secondMoves, fun heeded ok => ?_⟩
  obtain ⟨addresses, succeeds⟩ := statuses_of_write ok
  have unrefused := (access.heeded_iff ready.addressed Nat.one_pos
    (fun _ addressed => asserts_write addressed data true) addresses
    succeeds).mp heeded
  obtain ⟨other, acked, first, second, line⟩ := access.exists_acked unrefused
  rw [← first, ← second] at ok
  rw [← line]
  exact other.line_of_written ready acked several state ok

/-- One turn each, and everything acknowledged. -/
def alternating (rounds : Nat) : List (List Move) :=
  List.replicate rounds [.driver, .controller true]

theorem fair_alternating (rounds : Nat) : Fair (alternating rounds) := by
  intro round member
  rw [List.eq_of_mem_replicate member]
  exact ⟨List.mem_cons_self, true, by simp⟩

theorem acked_alternating (rounds : Nat) :
    Acked (alternating rounds).flatten := by
  intro move member
  obtain ⟨round, several, member⟩ := List.mem_flatten.mp member
  rw [List.eq_of_mem_replicate several] at member
  rintro rfl
  simp at member

@[simp] theorem length_alternating (rounds : Nat) :
    (alternating rounds).length = rounds := List.length_replicate

/-- Turns that change nothing any more may be left out. -/
theorem exec_alternating {exchange settled : Exchange Memory}
    {few rounds : Nat} (enough : few ≤ rounds)
    (reached : (machine slave).exec exchange (alternating few).flatten =
      settled)
    (driver : settled.driver = settled)
    (controller : settled.controller.advance slave true = settled.controller) :
    (machine slave).exec exchange (alternating rounds).flatten = settled := by
  have still : ∀ more : Nat,
      (machine slave).exec settled (alternating more).flatten = settled := by
    intro more
    induction more with
    | zero => rfl
    | succ more induction =>
        have turns : (alternating (more + 1)).flatten =
            [.driver, .controller true] ++ (alternating more).flatten := rfl
        have once : (machine slave).exec settled [.driver, .controller true] =
            settled := by
          simp only [Machine.exec_cons, Machine.exec_nil, machine, driver,
            controller]
        rw [turns, Machine.exec_append, once, induction]
  obtain ⟨more, rfl⟩ := Nat.exists_eq_add_of_le enough
  have split : alternating (few + more) =
      alternating few ++ alternating more :=
    List.replicate_append_replicate.symm
  rw [split, List.flatten_append, Machine.exec_append, reached, still]

section Config

def listener : Slave Unit := ⟨fun _ _ => (), fun _ => 0⟩

def atRest : Controller Unit :=
  ⟨false, false, false, [], [], none, none, false, ()⟩

def configAddressed : Exchange Unit :=
  (machine listener).exec ⟨.write [0xF4] false, atRest⟩
    (alternating 20).flatten

def configWritten : Exchange Unit :=
  (machine listener).exec ⟨.write [0x27, 0xA0] true,
    configAddressed.controller⟩ (alternating 30).flatten

theorem write_returns_config :
    ∃ access : Access listener atRest 0xF4 (.write [0x27, 0xA0] true),
      (write access.first.master.rc access.second.master.rc
          State.initial).error = .ok ∧
        access.line = [.start .write, .sent 0xF4, .sent 0x27, .sent 0xA0,
          .stop] := by
  obtain ⟨access, firstMoves, secondMoves, line⟩ := @write_returns _ listener
    atRest ⟨⟨fun _ => ⟨rfl, rfl, by simp [atRest]⟩, fun _ => ⟨rfl, rfl⟩⟩, rfl,
      rfl, rfl, rfl, rfl, rfl⟩ 0xF4 [0x27, 0xA0] (by simp) State.initial
    (alternating (pollCount + 22)) (alternating (pollCount + 38))
    (fair_alternating _) (fair_alternating _) (by simp) (by simp; omega)
  have first : access.first = configAddressed := by
    rw [Access.first, firstMoves]
    exact exec_alternating (by decide) rfl rfl rfl
  have second : access.second = configWritten := by
    rw [Access.second, first, secondMoves]
    exact exec_alternating (by decide) rfl rfl rfl
  have heeded : access.Heeded := by
    rw [Access.Heeded, firstMoves, secondMoves]
    exact ⟨heeded_of_acked (acked_alternating _),
      heeded_of_acked (acked_alternating _)⟩
  have ok : (write access.first.master.rc access.second.master.rc
      State.initial).error = .ok := by
    rw [first, second]
    rfl
  exact ⟨access, ok, line heeded ok⟩

end Config

end Access

end I2C

end QuarkMeteoStation
