import QuarkMeteoStation.Library.Progress

namespace QuarkMeteoStation

open Library

/-! `qm_uart_write_buffer` of `qm_uart.c`, one register access at a time, beside
the transmitter that empties the FIFO on its own. -/

namespace UART

/-- `QM_UART_FIFO_DEPTH`. -/
def fifoDepth : Nat := 16

/-- The statement the call executes next. -/
inductive Point
  | testLen
  | pollThre
  | writeThr
  | pollTemt
  | returned
  deriving DecidableEq, Repr

structure State where
  point : Point
  /-- The bytes from `*d` on that are still to be written. -/
  data : List UInt8
  fifo : List UInt8
  shift : Option UInt8
  deriving DecidableEq, Repr

inductive Move
  | driver
  /-- The transmitter takes the oldest byte of the FIFO. -/
  | load
  /-- The byte in the shift register has gone out on the line. -/
  | shiftOut
  deriving DecidableEq, Repr

namespace State

/-- A call of `qm_uart_write_buffer` while the transmitter is idle. -/
def writeBuffer (data : List UInt8) : State where
  point := .testLen
  data := data
  fifo := []
  shift := none

/-- With the FIFO and the programmable interrupt enabled, `LSR_THRE` says that
the FIFO is full. -/
def thre (state : State) : Bool :=
  fifoDepth ≤ state.fifo.length

def temt (state : State) : Bool :=
  state.fifo = [] && state.shift = none

/-- A byte written to a full FIFO is lost. -/
def writeThr (state : State) (byte : UInt8) : State :=
  if state.thre then state else { state with fifo := state.fifo ++ [byte] }

def driver (state : State) : State :=
  match state.point with
  | .testLen =>
      if state.data = [] then { state with point := .pollTemt }
      else { state with point := .pollThre }
  | .pollThre =>
      if state.thre then state else { state with point := .writeThr }
  | .writeThr =>
      match state.data with
      | [] => state
      | byte :: rest =>
          { state.writeThr byte with data := rest, point := .testLen }
  | .pollTemt =>
      if state.temt then { state with point := .returned } else state
  | .returned => state

def load (state : State) : State :=
  match state.shift, state.fifo with
  | none, byte :: rest => { state with shift := some byte, fifo := rest }
  | _, _ => state

def next (state : State) : Move → State
  | .driver => state.driver
  | .load => state.load
  | .shiftOut => { state with shift := none }

def output (state : State) : Move → Option UInt8
  | .shiftOut => state.shift
  | _ => none

end State

def machine : Machine State Move UInt8 where
  start := fun state => ∃ data, state = State.writeBuffer data
  step := State.next
  output := State.output

/-- The FIFO is never written to while it is full, and the call does not return
before the last byte has left. -/
structure Sound (state : State) : Prop where
  fits : state.fifo.length ≤ fifoDepth
  room : state.point = .writeThr → state.thre = false
  written : state.point = .pollThre ∨ state.point = .writeThr →
    state.data ≠ []
  waiting : state.point = .pollTemt ∨ state.point = .returned →
    state.data = []
  returned : state.point = .returned → state.fifo = [] ∧ state.shift = none

theorem sound_writeBuffer (data : List UInt8) :
    Sound (State.writeBuffer data) where
  fits := Nat.zero_le _
  room := by simp [State.writeBuffer]
  written := by simp [State.writeBuffer]
  waiting := by simp [State.writeBuffer]
  returned := by simp [State.writeBuffer]

/-- The bytes on their way, oldest first. -/
def pending (state : State) : List UInt8 :=
  state.shift.toList ++ state.fifo ++ state.data

section Step

variable {state : State}

theorem sound_driver (sound : Sound state) : Sound state.driver := by
  obtain ⟨fits, room, written, waiting, returned⟩ := sound
  cases point : state.point with
  | testLen =>
      rw [State.driver, point]
      by_cases finished : state.data = []
      · rw [if_pos finished]
        exact ⟨fits, by simp, by simp, fun _ => finished, by simp⟩
      · rw [if_neg finished]
        exact ⟨fits, by simp, fun _ => finished, by simp, by simp⟩
  | pollThre =>
      have several := written (Or.inl point)
      rw [State.driver, point]
      cases full : state.thre with
      | true =>
          rw [if_pos rfl]
          exact ⟨fits, room, written, waiting, returned⟩
      | false =>
          rw [if_neg Bool.false_ne_true]
          exact ⟨fits, fun _ => full, fun _ => several, by simp, by simp⟩
  | writeThr =>
      have free := room point
      have several := written (Or.inr point)
      rw [State.driver, point]
      cases data : state.data with
      | nil => exact absurd data several
      | cons byte rest =>
          have short : state.fifo.length < fifoDepth := by
            simpa [State.thre] using free
          simp only [State.writeThr, free, Bool.false_eq_true, if_false]
          refine ⟨?_, by simp, by simp, by simp, by simp⟩
          rw [List.length_append]
          exact short
  | pollTemt =>
      have none := waiting (Or.inl point)
      rw [State.driver, point]
      cases empty : state.temt with
      | true =>
          simp only [State.temt, Bool.and_eq_true, decide_eq_true_eq] at empty
          rw [if_pos rfl]
          exact ⟨fits, by simp, by simp, fun _ => none, fun _ => empty⟩
      | false =>
          rw [if_neg Bool.false_ne_true]
          exact ⟨fits, room, written, waiting, returned⟩
  | returned =>
      rw [State.driver, point]
      exact ⟨fits, room, written, waiting, returned⟩

theorem sound_load (sound : Sound state) : Sound state.load := by
  obtain ⟨fits, room, written, waiting, returned⟩ := sound
  unfold State.load
  split
  · next byte rest idle queued =>
      rw [queued, List.length_cons] at fits
      refine ⟨Nat.le_of_succ_le fits, ?_, written, waiting, ?_⟩
      · intro _
        rw [State.thre]
        exact decide_eq_false (Nat.not_le_of_lt fits)
      · intro done
        have empty := (returned done).1
        rw [queued] at empty
        contradiction
  · exact ⟨fits, room, written, waiting, returned⟩

theorem sound_next (sound : Sound state) (move : Move) :
    Sound (machine.step state move) := by
  cases move with
  | driver => exact sound_driver sound
  | load => exact sound_load sound
  | shiftOut =>
      obtain ⟨fits, room, written, waiting, returned⟩ := sound
      exact ⟨fits, room, written, waiting, fun done =>
        ⟨(returned done).1, rfl⟩⟩

/-- Every byte is on its way until it goes out. -/
theorem pending_next (sound : Sound state) (move : Move) :
    (machine.output state move).toList ++ pending (machine.step state move) =
      pending state := by
  cases move with
  | driver =>
      simp only [machine, State.output, State.next, State.driver,
        Option.toList_none, List.nil_append]
      cases point : state.point with
      | writeThr =>
          have free := sound.room point
          cases data : state.data with
          | nil => rfl
          | cons byte rest =>
              simp [pending, State.writeThr, free, data]
      | returned => rfl
      | _ =>
          dsimp only
          split <;> rfl
  | load =>
      simp only [machine, State.output, State.next, State.load,
        Option.toList_none, List.nil_append]
      split
      · next byte rest idle queued => simp [pending, idle, queued]
      · rfl
  | shiftOut =>
      simp [machine, State.output, State.next, pending]

end Step

/-- The moves of driver and transmitter that are still to come. -/
def left (state : State) : Nat :=
  5 * state.data.length + 2 * state.fifo.length + state.shift.toList.length +
    match state.point with
    | .testLen => 2
    | .pollThre | .pollTemt => 1
    | .writeThr | .returned => 0

def Returned (state : State) : Prop :=
  state.point = .returned

/-- The byte in the shift register goes first, then the FIFO, and the call only
once both are empty. -/
def party (state : State) : Move :=
  if state.shift.isSome then .shiftOut
  else if state.fifo = [] then .driver
  else .load

section Progress

variable {state : State}

theorem left_driver_of_empty (sound : Sound state) (unfinished : ¬Returned state)
    (idle : state.shift = none) (empty : state.fifo = []) :
    left state.driver < left state := by
  have room : state.thre = false := by
    simp [State.thre, empty, fifoDepth]
  cases point : state.point with
  | testLen =>
      rw [State.driver, point]
      by_cases finished : state.data = []
      · simp [left, finished, point]
      · simp [left, finished, point]
  | pollThre => simp [State.driver, left, point, room]
  | writeThr =>
      cases data : state.data with
      | nil => exact absurd data (sound.written (Or.inr point))
      | cons byte rest =>
          simp only [State.driver, left, point, State.writeThr, room, data,
            Bool.false_eq_true, if_false, List.length_append,
            List.length_cons, List.length_nil]
          omega
  | pollTemt => simp [State.driver, left, point, State.temt, idle, empty]
  | returned => exact absurd point unfinished

theorem left_party (sound : Sound state) (unfinished : ¬Returned state) :
    left (machine.step state (party state)) < left state := by
  unfold party
  cases idle : state.shift with
  | some byte =>
      rw [if_pos Option.isSome_some]
      simp [machine, State.next, left, idle]
  | none =>
      rw [if_neg (by simp)]
      by_cases empty : state.fifo = []
      · rw [if_pos empty]
        exact left_driver_of_empty sound unfinished idle empty
      · rw [if_neg empty]
        obtain ⟨byte, rest, queued⟩ := List.exists_cons_of_ne_nil empty
        simp only [machine, State.next, State.load, idle, queued, left,
          List.length_cons, Option.toList_some, Option.toList_none,
          List.length_nil]
        omega

theorem left_idles (sound : Sound state) (move : Move) :
    left (machine.step state move) < left state ∨
      machine.step state move = state := by
  cases move with
  | driver =>
      simp only [machine, State.next]
      cases point : state.point with
      | testLen =>
          left
          by_cases finished : state.data = [] <;>
            simp [State.driver, left, finished, point]
      | pollThre =>
          cases full : state.thre with
          | true => exact Or.inr (by simp [State.driver, point, full])
          | false => exact Or.inl (by simp [State.driver, left, point, full])
      | writeThr =>
          have free := sound.room point
          cases data : state.data with
          | nil => exact absurd data (sound.written (Or.inr point))
          | cons byte rest =>
              left
              simp only [State.driver, left, point, State.writeThr, free, data,
                Bool.false_eq_true, if_false, List.length_append,
                List.length_cons, List.length_nil]
              omega
      | pollTemt =>
          cases empty : state.temt with
          | true => exact Or.inl (by simp [State.driver, left, point, empty])
          | false => exact Or.inr (by simp [State.driver, point, empty])
      | returned => exact Or.inr (by simp [State.driver, point])
  | load =>
      simp only [machine, State.next, State.load]
      split
      · next byte rest idle queued =>
          left
          simp only [left, idle, queued, List.length_cons, Option.toList_some,
            Option.toList_none, List.length_nil]
          omega
      · exact Or.inr rfl
  | shiftOut =>
      cases idle : state.shift with
      | none =>
          right
          change { state with shift := none } = state
          rw [← idle]
      | some byte => exact Or.inl (by simp [machine, State.next, left, idle])

def progress : machine.Progress Returned left Sound where
  party := fun state move => move = party state
  preserved := fun _ move sound => sound_next sound move
  moves := fun _ _ sound unfinished taken => by
    rw [taken]
    exact left_party sound unfinished
  idles := fun _ move sound => left_idles sound move
  finished := by
    intro state sound nothing
    cases point : state.point with
    | returned => exact point
    | writeThr =>
        have several := sound.written (Or.inr point)
        have some := List.length_pos_iff.mpr several
        rw [left] at nothing
        omega
    | _ => simp [left, point] at nothing
  stays := by
    intro state move sound returned
    cases move with
    | driver =>
        have point : state.point = .returned := returned
        simp [machine, State.next, State.driver, point, Returned]
    | load =>
        obtain ⟨empty, -⟩ := sound.returned returned
        simpa [machine, State.next, State.load, empty] using returned
    | shiftOut => exact returned

end Progress

section Call

variable (data : List UInt8)

theorem line_and_pending (moves : List Move) :
    machine.trace (State.writeBuffer data) moves ++
        pending (machine.exec (State.writeBuffer data) moves) = data ∧
      Sound (machine.exec (State.writeBuffer data) moves) := by
  refine machine.historyInvariant (fun _ => True)
    (fun line state => line ++ pending state = data ∧ Sound state) ?_
    (State.writeBuffer data) ⟨rfl, sound_writeBuffer data⟩ moves
    (fun _ _ => trivial)
  intro line state move _ holds
  obtain ⟨kept, sound⟩ := holds
  refine ⟨?_, sound_next sound move⟩
  rw [List.append_assoc, pending_next sound]
  exact kept

theorem line_of_returned {moves : List Move}
    (returned : Returned (machine.exec (State.writeBuffer data) moves)) :
    machine.trace (State.writeBuffer data) moves = data := by
  obtain ⟨kept, sound⟩ := line_and_pending data moves
  obtain ⟨empty, idle⟩ := sound.returned returned
  have nothing := sound.waiting (Or.inr returned)
  rw [pending, empty, idle, nothing] at kept
  simpa using kept

/-- However the transmitter and the processor take turns, the line carries the
buffer's bytes in order, none is written into a full FIFO, and the call returns
with all of them gone; it does return once both have had their turns. -/
theorem writeBuffer_delivers :
    (∀ moves : List Move,
      let after := machine.exec (State.writeBuffer data) moves
      let line := machine.trace (State.writeBuffer data) moves
      line ++ pending after = data ∧
        (after.point = .writeThr → after.fifo.length < fifoDepth) ∧
        (after.point = .returned → line = data)) ∧
      ∀ rounds : List (List Move),
        (∀ round ∈ rounds, ∀ move, move ∈ round) →
        5 * data.length + 2 ≤ rounds.length →
        (machine.exec (State.writeBuffer data) rounds.flatten).point =
          .returned := by
  refine ⟨?_, ?_⟩
  · intro moves after line
    obtain ⟨kept, sound⟩ := line_and_pending data moves
    refine ⟨kept, ?_, line_of_returned data⟩
    intro writing
    have free := sound.room writing
    rw [State.thre] at free
    exact Nat.lt_of_not_le (of_decide_eq_false free)
  · intro rounds fair enough
    apply progress.done_of_rounds (sound_writeBuffer data)
      (fun round member state =>
        ⟨party state, fair round member (party state), rfl⟩)
    simp only [left, State.writeBuffer, List.length_nil, Option.toList_none]
    omega

end Call

/-- One call after another, each with the moves that were made during it. -/
def lineOf (calls : List (List UInt8 × List Move)) : List UInt8 :=
  calls.flatMap fun call =>
    machine.trace (State.writeBuffer call.1) call.2

theorem lineOf_returned {calls : List (List UInt8 × List Move)}
    (returned : ∀ call ∈ calls,
      Returned (machine.exec (State.writeBuffer call.1) call.2)) :
    lineOf calls = (calls.map Prod.fst).flatten := by
  induction calls with
  | nil => rfl
  | cons call calls induction =>
      have first := line_of_returned call.1 (returned call List.mem_cons_self)
      have rest := induction fun later member =>
        returned later (List.mem_cons_of_mem call member)
      rw [lineOf, List.flatMap_cons, first]
      exact congrArg (call.1 ++ ·) rest

end UART

end QuarkMeteoStation
