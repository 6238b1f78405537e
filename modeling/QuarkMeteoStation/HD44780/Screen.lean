import QuarkMeteoStation.HD44780
import QuarkMeteoStation.Library.Overwrite

namespace QuarkMeteoStation

open Library

/-! What the display controller makes of the bytes it receives: its character
memory in two-line mode, with the cursor moving to the right. -/

namespace HD44780

structure Screen where
  ddram : Nat → UInt8
  address : Nat

namespace Screen

def blank : UInt8 := 32

def advance (address : Nat) : Nat :=
  if address = 0x27 then 0x40
  else if address = 0x67 then 0x00
  else address + 1

def receive (screen : Screen) (write : Write) : Screen :=
  match write.mode with
  | .character =>
      { ddram := Function.update screen.ddram screen.address write.byte
        address := advance screen.address }
  | .instruction =>
      if setDdramAddrCmd ≤ write.byte then
        { screen with address := (write.byte - setDdramAddrCmd).toNat }
      else if write.byte = clearDisplayCmd then
        { ddram := fun _ => blank, address := 0 }
      else screen

def receiveAll (screen : Screen) (writes : List Write) : Screen :=
  writes.foldl receive screen

def Visible (address : Nat) : Prop :=
  address < 20 ∨ 0x40 ≤ address ∧ address < 0x40 + 20

instance (address : Nat) : Decidable (Visible address) :=
  inferInstanceAs (Decidable (_ ∨ _))

/-- A text that does not run over the end of its line. -/
def FitsLine (start length : Nat) : Prop :=
  start + length ≤ 0x28 ∨ 0x40 ≤ start ∧ start + length ≤ 0x68

@[simp] theorem receiveAll_append (screen : Screen)
    (first second : List Write) :
    screen.receiveAll (first ++ second) =
      (screen.receiveAll first).receiveAll second :=
  List.foldl_append

theorem advance_of_fitsLine {start length : Nat}
    (fits : FitsLine start length) (several : 1 < length) :
    advance start = start + 1 := by
  unfold FitsLine at fits
  unfold advance
  rw [if_neg (by omega), if_neg (by omega)]

end Screen

end HD44780

end QuarkMeteoStation
