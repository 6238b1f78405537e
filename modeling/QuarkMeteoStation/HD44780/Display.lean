import QuarkMeteoStation.HD44780.Screen

namespace QuarkMeteoStation

open Library

/-! What the driver relies on in a display. The display itself is hardware: any
state will do that has a character memory and a cursor in it, and that the
address command and the characters change as documented. The visible part of the
memory is not shifted. -/

namespace HD44780

universe u

structure Modes where
  twoLines : Bool
  increment : Bool
  deriving DecidableEq, Repr

namespace Modes

/-- Where the cursor goes from a display address. -/
def move (modes : Modes) (address : Nat) : Nat :=
  match modes.increment, modes.twoLines with
  | true, true => Screen.advance address
  | true, false => if address = 0x4F then 0x00 else address + 1
  | false, true =>
      if address = 0x00 then 0x67
      else if address = 0x40 then 0x27
      else address - 1
  | false, false => if address = 0x00 then 0x4F else address - 1

/-- A text that the cursor runs through without leaving its line. -/
def FitsLine (modes : Modes) (start length : Nat) : Prop :=
  if modes.twoLines then Screen.FitsLine start length
  else start + length ≤ 0x50

variable {modes : Modes} {start length : Nat}

theorem move_of_fitsLine (increment : modes.increment = true)
    (fits : modes.FitsLine start length) (several : 1 < length) :
    modes.move start = start + 1 := by
  unfold FitsLine at fits
  unfold move
  rw [increment]
  cases lines : modes.twoLines with
  | true =>
      rw [lines, if_pos rfl] at fits
      exact Screen.advance_of_fitsLine fits several
  | false =>
      rw [lines, if_neg (by decide)] at fits
      exact if_neg (by omega)

theorem FitsLine.within (fits : modes.FitsLine start length)
    {offset count : Nat} (inside : offset + count ≤ length) :
    modes.FitsLine (start + offset) count := by
  unfold FitsLine Screen.FitsLine at fits ⊢
  cases lines : modes.twoLines with
  | true =>
      rw [lines, if_pos rfl] at fits
      rw [if_pos rfl]
      omega
  | false =>
      rw [lines, if_neg (by decide)] at fits
      rw [if_neg (by decide)]
      omega

theorem FitsLine.lt (fits : modes.FitsLine start length) :
    start + length < 0x80 := by
  unfold FitsLine Screen.FitsLine at fits
  split at fits <;> omega

end Modes

structure Display (State : Type u) where
  receive : State → Write → State
  ddram : State → Nat → UInt8
  /-- The display address of the next character; `none` while the characters
  go to the glyphs. -/
  cursor : State → Option Nat
  modes : State → Modes

namespace Display

variable {State : Type u}

def receiveAll (display : Display State) (state : State)
    (writes : List Write) : State :=
  writes.foldl display.receive state

/-- The commands and characters act as documented at the addresses the display
has: those that one character fits. -/
structure Lawful (display : Display State) : Prop where
  position : ∀ (state : State) {command : UInt8},
    setDdramAddrCmd ≤ command →
    (display.modes state).FitsLine (command - setDdramAddrCmd).toNat 1 →
      let moved := display.receive state (writeCmd command)
      display.ddram moved = display.ddram state ∧
        display.cursor moved = some (command - setDdramAddrCmd).toNat ∧
        display.modes moved = display.modes state
  character : ∀ {state : State} {address : Nat},
    display.cursor state = some address →
    (display.modes state).FitsLine address 1 → ∀ byte,
      let written := display.receive state (writeChar byte)
      display.ddram written =
          Function.update (display.ddram state) address byte ∧
        display.cursor written = some ((display.modes state).move address) ∧
        display.modes written = display.modes state

variable {display : Display State} {state : State}

theorem receiveAll_append (first second : List Write) :
    display.receiveAll state (first ++ second) =
      display.receiveAll (display.receiveAll state first) second :=
  List.foldl_append

/-- A text that fits its line lies in the memory where the cursor was. -/
theorem Lawful.receiveAll_text (lawful : display.Lawful) {address : Nat}
    (cursor : display.cursor state = some address)
    (increment : (display.modes state).increment = true) {text : List UInt8}
    (fits : (display.modes state).FitsLine address text.length) :
    display.ddram (display.receiveAll state (writeString text)) =
      stamp (display.ddram state) address text := by
  induction text generalizing state address with
  | nil => exact (stamp_nil _ _).symm
  | cons byte text induction =>
      have here : (display.modes state).FitsLine (address + 0) 1 :=
        fits.within (by simp)
      obtain ⟨ddram, moved, modes⟩ := lawful.character cursor here byte
      have step : display.receiveAll state (writeString (byte :: text)) =
          display.receiveAll (display.receive state (writeChar byte))
            (writeString text) := rfl
      rw [step, stamp_cons, ← ddram]
      cases text with
      | nil => exact (stamp_nil _ _).symm
      | cons second rest =>
          have next : (display.modes state).move address = address + 1 :=
            Modes.move_of_fitsLine increment fits (by simp)
          rw [next] at moved
          apply induction moved
          · rw [modes]
            exact increment
          · rw [modes]
            apply fits.within
            simp only [List.length_cons]
            omega

end Display

namespace Screen

/-- A display in two-line mode whose cursor moves to the right. -/
def display : Display Screen where
  receive := receive
  ddram := ddram
  cursor := fun screen => some screen.address
  modes := fun _ => { twoLines := true, increment := true }

theorem display_lawful : display.Lawful where
  position := by
    intro screen command position _
    have moved : screen.receive (writeCmd command) =
        { screen with address := (command - setDdramAddrCmd).toNat } :=
      if_pos position
    refine ⟨?_, ?_, rfl⟩
    · change (screen.receive (writeCmd command)).ddram = screen.ddram
      rw [moved]
    · exact congrArg (fun screen => some screen.address) moved
  character := by
    intro screen address cursor _ byte
    have here : screen.address = address := Option.some.inj cursor
    rw [← here]
    exact ⟨rfl, rfl, rfl⟩

theorem receiveAll_text (screen : Screen) (text : List UInt8)
    (fits : FitsLine screen.address text.length) :
    (screen.receiveAll (writeString text)).ddram =
      stamp screen.ddram screen.address text := by
  have line : (display.modes screen).FitsLine screen.address text.length :=
    (if_pos rfl).mpr fits
  exact display_lawful.receiveAll_text rfl rfl line

/-- A text drawn at a position of the line that it fits into. -/
theorem receiveAll_drawn {position : List Write} {start : Nat}
    (moved : ∀ screen : Screen,
      screen.receiveAll position = { screen with address := start })
    {text : List UInt8} (fits : FitsLine start text.length)
    (screen : Screen) (earlier : List Write) :
    (screen.receiveAll (earlier ++ position ++ writeString text)).ddram =
      stamp (screen.receiveAll earlier).ddram start text := by
  rw [receiveAll_append, receiveAll_append, moved]
  exact receiveAll_text _ text fits

end Screen

end HD44780

end QuarkMeteoStation
