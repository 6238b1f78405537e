import QuarkMeteoStation.HD44780.Display
import QuarkMeteoStation.HD44780.Text

namespace QuarkMeteoStation

open Library

/-! The controller of the displays this driver is for, with both of its
memories: the display the driver talks to, as its commands are documented. -/

namespace HD44780

/-- The modes a panel works in, with the cursor moving to the right. -/
def TypeData.modes (panel : TypeData) : Modes where
  twoLines := panel.rows != 1
  increment := true

/-- Flags with names in the header, the increasing cursor among them. -/
structure Config.Increasing (config : Config) : Prop where
  entryMode : config.entryModeFlags = 0x02 ∨ config.entryModeFlags = 0x03
  onOff : config.onOffFlags < 0x08

structure Controller where
  ddram : Nat → UInt8
  cgram : Nat → UInt8
  cgramSelected : Bool
  address : Nat
  modes : Modes

namespace Controller

/-- The commands that move the cursor or the picture have no call in the driver
and are left out. -/
def execute (controller : Controller) (command : UInt8) : Controller :=
  if setDdramAddrCmd ≤ command then
    { controller with
      address := (command - setDdramAddrCmd).toNat, cgramSelected := false }
  else if setCgramAddrCmd ≤ command then
    { controller with
      address := (command - setCgramAddrCmd).toNat, cgramSelected := true }
  else if functionSetCmd ≤ command then
    { controller with
      modes.twoLines := command &&& HD44780.twoLines != 0 }
  else if displayOnOffCmd ≤ command then controller
  else if entryModeSetCmd ≤ command then
    { controller with modes.increment := command &&& 0x02 != 0 }
  else if 0x02 ≤ command then
    { controller with address := 0, cgramSelected := false }
  else if command = clearDisplayCmd then
    { controller with
      ddram := fun _ => Screen.blank
      address := 0
      cgramSelected := false
      modes.increment := true }
  else controller

def receive (controller : Controller) (write : Write) : Controller :=
  match write.mode with
  | .instruction => controller.execute write.byte
  | .character =>
      if controller.cgramSelected then
        { controller with
          cgram := Function.update controller.cgram controller.address
            write.byte
          address := if controller.modes.increment then
              (controller.address + 1) % 64
            else (controller.address + 63) % 64 }
      else
        { controller with
          ddram := Function.update controller.ddram controller.address
            write.byte
          address := controller.modes.move controller.address }

def receiveAll (controller : Controller) (writes : List Write) : Controller :=
  writes.foldl receive controller

@[simp] theorem receiveAll_append (controller : Controller)
    (first second : List Write) :
    controller.receiveAll (first ++ second) =
      (controller.receiveAll first).receiveAll second :=
  List.foldl_append

@[simp] theorem receiveAll_cons (controller : Controller) (write : Write)
    (writes : List Write) :
    controller.receiveAll (write :: writes) =
      (controller.receive write).receiveAll writes :=
  rfl

def display : Display Controller where
  receive := receive
  ddram := ddram
  cursor := fun controller =>
    if controller.cgramSelected then none else some controller.address
  modes := modes

theorem display_lawful : display.Lawful where
  position := by
    intro controller command position _
    have moved : controller.receive (writeCmd command) =
        { controller with
          address := (command - setDdramAddrCmd).toNat
          cgramSelected := false } := if_pos position
    refine ⟨?_, ?_, ?_⟩
    · change (controller.receive (writeCmd command)).ddram = controller.ddram
      rw [moved]
    · exact congrArg display.cursor moved
    · change (controller.receive (writeCmd command)).modes = controller.modes
      rw [moved]
  character := by
    intro controller address cursor _ byte
    cases selected : controller.cgramSelected with
    | true =>
        have none : display.cursor controller = none := if_pos selected
        rw [none] at cursor
        contradiction
    | false =>
        have unselected : ¬controller.cgramSelected = true := by
          rw [selected]
          decide
        have some : display.cursor controller = some controller.address :=
          if_neg unselected
        have here : controller.address = address :=
          Option.some.inj (some.symm.trans cursor)
        have written : controller.receive (writeChar byte) =
            { controller with
              ddram :=
                Function.update controller.ddram controller.address byte
              address := controller.modes.move controller.address } :=
          if_neg unselected
        rw [← here]
        refine ⟨congrArg ddram written, ?_, ?_⟩
        · exact (congrArg display.cursor written).trans (if_neg unselected)
        · change (controller.receive (writeChar byte)).modes = controller.modes
          rw [written]

section Modes

/-- The writes of everything the driver does after its initialisation. -/
def KeepsModes (write : Write) : Prop :=
  write.mode = .character ∨ setCgramAddrCmd ≤ write.byte ∨
    write.byte = clearDisplayCmd

variable {controller : Controller}

theorem modes_execute_address {command : UInt8}
    (address : setCgramAddrCmd ≤ command) :
    (controller.execute command).modes = controller.modes := by
  unfold execute
  by_cases display : setDdramAddrCmd ≤ command
  · rw [if_pos display]
  · rw [if_neg display, if_pos address]

theorem modes_receive {write : Write} (keeps : KeepsModes write)
    (increment : controller.modes.increment = true) :
    (controller.receive write).modes = controller.modes := by
  unfold receive
  cases mode : write.mode with
  | character =>
      simp only
      split <;> rfl
  | instruction =>
      rcases keeps with character | address | clear
      · rw [mode] at character
        contradiction
      · exact modes_execute_address address
      · rw [clear]
        change { controller.modes with increment := true } = controller.modes
        rw [← increment]

theorem modes_receiveAll {writes : List Write}
    (keeps : ∀ write ∈ writes, KeepsModes write)
    (increment : controller.modes.increment = true) :
    (controller.receiveAll writes).modes = controller.modes := by
  induction writes generalizing controller with
  | nil => rfl
  | cons write writes induction =>
      have first := modes_receive (keeps write (by simp)) increment
      rw [receiveAll_cons, induction, first]
      · intro later member
        exact keeps later (List.mem_cons_of_mem _ member)
      · rw [first]
        exact increment

end Modes

section Initialised

variable (config : Config)

theorem execute_displayOnOff (controller : Controller) {flags : UInt8}
    (named : flags < 0x08) :
    controller.execute (displayOnOffCmd ||| flags) = controller := by
  have lower : displayOnOffCmd ≤ displayOnOffCmd ||| flags := by
    rw [UInt8.le_iff_toNat_le, UInt8.toNat_or]
    exact Nat.left_le_or
  have upper : (displayOnOffCmd ||| flags).toNat < 2 ^ 4 := by
    rw [UInt8.toNat_or]
    apply Nat.or_lt_two_pow (by decide)
    exact Nat.lt_trans (UInt8.lt_iff_toNat_lt.mp named) (by decide)
  have below {command : UInt8} (large : 2 ^ 4 ≤ command.toNat) :
      ¬command ≤ displayOnOffCmd ||| flags := by
    rw [UInt8.le_iff_toNat_le]
    omega
  rw [execute, if_neg (below (by decide)), if_neg (below (by decide)),
    if_neg (below (by decide)), if_pos lower]

theorem modes_functionSet (controller : Controller) :
    (controller.receive
        (if config.displayType.typeData.rows = 1 then
          writeCmd (functionSetCmd ||| oneLine)
        else writeCmd (functionSetCmd ||| HD44780.twoLines))).modes =
      { controller.modes with
        twoLines := config.displayType.typeData.rows != 1 } := by
  split
  next single =>
    rw [single]
    rfl
  next several =>
    rw [bne_iff_ne.mpr several]
    rfl

theorem keepsModes_clear :
    ∀ write ∈ clear config, KeepsModes write := by
  intro write member
  simp only [clear, List.mem_cons, List.not_mem_nil, or_false] at member
  rcases member with rfl | rfl
  · exact Or.inr (Or.inr rfl)
  · exact Or.inr (Or.inl (Nat.le_trans (by decide) Nat.left_le_or))

theorem keepsModes_gotoxy (x y : UInt8) :
    ∀ write ∈ gotoxy config x y, KeepsModes write := by
  intro write member
  rw [gotoxy, List.mem_singleton] at member
  rw [member]
  exact Or.inr (Or.inl (Nat.le_trans (by decide) Nat.left_le_or))

theorem keepsModes_writeString (string : List UInt8) :
    ∀ write ∈ writeString string, KeepsModes write := by
  intro write member
  obtain ⟨character, -, rfl⟩ := List.mem_map.mp member
  exact Or.inl rfl

theorem keepsModes_writeInteger (number : Int32) (requiredLength : UInt8) :
    ∀ write ∈ writeInteger number requiredLength, KeepsModes write := by
  rw [writeInteger_text]
  exact keepsModes_writeString _

theorem keepsModes_loadCustomGlyph (glyph : Vector UInt8 8)
    (cgramAddr : Nat) :
    ∀ write ∈ loadCustomGlyph glyph cgramAddr, KeepsModes write := by
  intro write member
  rcases List.mem_cons.mp member with rfl | row
  · exact Or.inr (Or.inl Nat.left_le_or)
  · exact keepsModes_writeString _ write row

theorem keepsModes_loadCustomGlyphs
    (glyphs : Vector (Vector UInt8 8) customGlyphsNum) :
    ∀ write ∈ loadCustomGlyphs glyphs, KeepsModes write := by
  intro write member
  obtain ⟨⟨glyph, index⟩, -, row⟩ := List.mem_flatMap.mp member
  exact keepsModes_loadCustomGlyph glyph index write row

/-- What the driver's functions may have written since the initialisation. -/
inductive Session : List Write → Prop
  | start : Session []
  | clear {earlier : List Write} (session : Session earlier) :
      Session (earlier ++ clear config)
  | gotoxy {earlier : List Write} (session : Session earlier) (x y : UInt8) :
      Session (earlier ++ gotoxy config x y)
  | writeString {earlier : List Write} (session : Session earlier)
      (string : List UInt8) : Session (earlier ++ writeString string)
  | writeInteger {earlier : List Write} (session : Session earlier)
      (number : Int32) (requiredLength : UInt8) :
      Session (earlier ++ writeInteger number requiredLength)
  | loadCustomGlyph {earlier : List Write} (session : Session earlier)
      (glyph : Vector UInt8 8) (cgramAddr : Nat) :
      Session (earlier ++ loadCustomGlyph glyph cgramAddr)
  | loadCustomGlyphs {earlier : List Write} (session : Session earlier)
      (glyphs : Vector (Vector UInt8 8) customGlyphsNum) :
      Session (earlier ++ loadCustomGlyphs glyphs)

theorem Session.keepsModes {config : Config} {writes : List Write}
    (session : Session config writes) :
    ∀ write ∈ writes, KeepsModes write := by
  induction session with
  | start => simp
  | clear session induction =>
      exact List.forall_mem_append.mpr ⟨induction, keepsModes_clear config⟩
  | gotoxy session x y induction =>
      exact List.forall_mem_append.mpr
        ⟨induction, keepsModes_gotoxy config x y⟩
  | writeString session string induction =>
      exact List.forall_mem_append.mpr
        ⟨induction, keepsModes_writeString string⟩
  | writeInteger session number requiredLength induction =>
      exact List.forall_mem_append.mpr
        ⟨induction, keepsModes_writeInteger number requiredLength⟩
  | loadCustomGlyph session glyph cgramAddr induction =>
      exact List.forall_mem_append.mpr
        ⟨induction, keepsModes_loadCustomGlyph glyph cgramAddr⟩
  | loadCustomGlyphs session glyphs induction =>
      exact List.forall_mem_append.mpr
        ⟨induction, keepsModes_loadCustomGlyphs glyphs⟩

theorem modes_init (increasing : config.Increasing)
    (controller : Controller) :
    (controller.receiveAll (init config)).modes =
      config.displayType.typeData.modes := by
  let started := controller.receiveAll
    [writeCmd 0x30, writeCmd 0x30, writeCmd 0x30, writeCmd 0x02]
  let selected := started.receive
    (if config.displayType.typeData.rows = 1 then
      writeCmd (functionSetCmd ||| oneLine)
    else writeCmd (functionSetCmd ||| HD44780.twoLines))
  let entry := writeCmd (entryModeSetCmd ||| config.entryModeFlags)
  have shown : selected.receive
      (writeCmd (displayOnOffCmd ||| config.onOffFlags)) = selected :=
    execute_displayOnOff selected increasing.onOff
  have entered : (selected.receive entry).modes =
      config.displayType.typeData.modes := by
    have lines := modes_functionSet config started
    have increased : (selected.receive entry).modes =
        { selected.modes with increment := true } := by
      simp only [entry]
      rcases increasing.entryMode with only | scrolling
      · rw [only]
        rfl
      · rw [scrolling]
        rfl
    rw [increased, lines]
    rfl
  have unfolded : controller.receiveAll (init config) =
      ((selected.receive (writeCmd
        (displayOnOffCmd ||| config.onOffFlags))).receive entry).receiveAll
          (clear config) := rfl
  rw [unfolded, shown, modes_receiveAll (keepsModes_clear config), entered]
  rw [entered]
  rfl

/-- The driver never leaves the modes that its initialisation has selected. -/
theorem Session.modes_eq {config : Config} {writes : List Write}
    (session : Session config writes) (increasing : config.Increasing)
    (before : Controller) :
    (before.receiveAll (init config ++ writes)).modes =
      config.displayType.typeData.modes := by
  have initialised := modes_init config increasing before
  have increment :
      (before.receiveAll (init config)).modes.increment = true := by
    rw [initialised]
    rfl
  rw [receiveAll_append, modes_receiveAll session.keepsModes increment,
    initialised]

end Initialised

end Controller

end HD44780

end QuarkMeteoStation
