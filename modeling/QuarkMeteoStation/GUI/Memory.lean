import QuarkMeteoStation.GUI.Screen
import QuarkMeteoStation.HD44780.Bus
import QuarkMeteoStation.HD44780.Controller

namespace QuarkMeteoStation

open Library

/-! From the pulses on the lines to the characters in the memory: what the
display takes them for after its initialisation, and what its controller then
does with the bytes. -/

namespace HD44780

open Interface

section Received

variable {config : Config} {interface : Interface}

theorem follow_waking (inPhase : ∀ high, interface = .pending high → high = 3) :
    interface.follow
        (([0x30, 0x30, 0x30, 0x02].map writeCmd).flatMap pulsesOf) =
      .expecting := by
  cases interface with
  | eightBit => decide
  | expecting => decide
  | pending high =>
      rw [inPhase high rfl]
      decide

/-- Whatever the display makes of the bytes that select four-bit mode, it takes
the settings and all that follows as they were written. -/
theorem received_after_waking (valid : config.Valid)
    (inPhase : ∀ high, interface = .pending high → high = 3)
    {writes : List Write} (fourBit : ∀ write ∈ writes, ¬SelectsEightBit write)
    {inputs : List (Pulse × Nibble)}
    (pulses : inputs.map Prod.fst =
      (HD44780.init config ++ writes).flatMap pulsesOf) :
    ∃ waking, machine.trace interface inputs =
      waking ++ ((settings config).map writeCmd ++ writes) := by
  rw [List.flatMap_append, pulses_init, List.append_assoc,
    ← List.flatMap_append] at pulses
  obtain ⟨first, later, rfl, woken, rest⟩ := List.map_eq_append_iff.mp pulses
  refine ⟨machine.trace interface first, ?_⟩
  rw [Machine.trace_append, exec_eq_follow, woken, follow_waking inPhase]
  apply congrArg
  apply trace_expecting _ later rest
  intro write member
  rcases List.mem_append.mp (List.dropLast_subset _ member) with
    setting | written
  · obtain ⟨byte, listed, rfl⟩ := List.mem_map.mp setting
    exact not_selectsEightBit (settings_halves valid byte listed).1
  · exact fourBit write written

end Received

namespace Controller

/-- The settings leave an empty memory with the cursor at its start, whatever
the controller was doing before. -/
theorem receiveAll_settings {config : Config} (increasing : config.Increasing)
    (controller : Controller) :
    controller.receiveAll ((settings config).map writeCmd) =
      { controller with
        ddram := fun _ => Screen.blank
        address := 0
        cgramSelected := false
        modes := config.displayType.typeData.modes } := by
  let selected := controller.receive
    (if config.displayType.typeData.rows = 1 then
      writeCmd (functionSetCmd ||| oneLine)
    else writeCmd (functionSetCmd ||| HD44780.twoLines))
  have lines := modes_functionSet config controller
  have glyphs : selected.cgram = controller.cgram := by
    simp only [selected]
    split <;> rfl
  have shown := execute_displayOnOff selected increasing.onOff
  have unfolded : controller.receiveAll ((settings config).map writeCmd) =
      ((selected.execute (displayOnOffCmd ||| config.onOffFlags)).execute
        (entryModeSetCmd ||| config.entryModeFlags)).receiveAll
          [writeCmd clearDisplayCmd, writeCmd setDdramAddrCmd] := by
    simp only [selected, settings]
    split <;> rfl
  rw [unfolded, shown]
  have entered : (selected.execute
      (entryModeSetCmd ||| config.entryModeFlags)).receiveAll
        [writeCmd clearDisplayCmd, writeCmd setDdramAddrCmd] =
      { selected with
        ddram := fun _ => Screen.blank
        address := 0
        cgramSelected := false
        modes.increment := true } := by
    rcases increasing.entryMode with only | scrolling
    · rw [only]
      rfl
    · rw [scrolling]
      rfl
  rw [entered, glyphs, lines]
  rfl

end Controller

/-- The writes that draw: characters, positions and the empty screen. -/
def Draws (write : Write) : Prop :=
  write.mode = .character ∨ setDdramAddrCmd ≤ write.byte ∨
    write.byte = clearDisplayCmd

theorem not_selectsEightBit_of_draws {write : Write} (draws : Draws write) :
    ¬SelectsEightBit write := by
  rcases draws with character | position | clear
  · exact not_selectsEightBit_of_character character
  · exact not_selectsEightBit_of_address (UInt8.le_trans (by decide) position)
  · apply not_selectsEightBit
    rw [clear]
    decide

/-- A controller in two-line mode with the cursor in the characters, beside the
screen that stands for it. -/
structure Shows (controller : Controller) (screen : Screen) : Prop where
  ddram : controller.ddram = screen.ddram
  address : controller.address = screen.address
  characters : controller.cgramSelected = false
  modes : controller.modes = { twoLines := true, increment := true }

section Shows

variable {controller : Controller} {screen : Screen}

theorem Shows.position (shows : Shows controller screen) {command : UInt8}
    (position : setDdramAddrCmd ≤ command) :
    Shows (controller.execute command)
      (screen.receive (writeCmd command)) := by
  have moved : screen.receive (writeCmd command) =
      { screen with address := (command - setDdramAddrCmd).toNat } :=
    if_pos position
  rw [Controller.execute, if_pos position, moved]
  exact ⟨shows.ddram, rfl, rfl, shows.modes⟩

theorem Shows.clear (shows : Shows controller screen) :
    Shows (controller.execute clearDisplayCmd)
      (screen.receive (writeCmd clearDisplayCmd)) := by
  refine ⟨rfl, rfl, rfl, ?_⟩
  change { controller.modes with increment := true } = _
  rw [shows.modes]

theorem Shows.character (shows : Shows controller screen) (byte : UInt8) :
    Shows (controller.receive (writeChar byte))
      (screen.receive (writeChar byte)) := by
  have unselected : ¬controller.cgramSelected = true := by
    rw [shows.characters]
    exact Bool.false_ne_true
  have written : controller.receive (writeChar byte) =
      { controller with
        ddram := Function.update controller.ddram controller.address byte
        address := controller.modes.move controller.address } :=
    if_neg unselected
  rw [written, shows.modes, shows.ddram, shows.address]
  exact ⟨rfl, rfl, shows.characters, rfl⟩

/-- The controller follows the screen through everything that is drawn. -/
theorem Shows.receive (shows : Shows controller screen) {write : Write}
    (draws : Draws write) :
    Shows (controller.receive write) (screen.receive write) := by
  obtain ⟨byte, mode⟩ := write
  cases mode with
  | character => exact shows.character byte
  | instruction =>
      rcases draws with character | position | clear
      · cases character
      · exact shows.position position
      · simp only at clear
        rw [clear]
        exact shows.clear

theorem Shows.receiveAll (shows : Shows controller screen)
    {writes : List Write} (draws : ∀ write ∈ writes, Draws write) :
    Shows (controller.receiveAll writes) (screen.receiveAll writes) := by
  induction writes generalizing controller screen with
  | nil => exact shows
  | cons write writes induction =>
      exact induction (shows.receive (draws write List.mem_cons_self))
        fun later member => draws later (List.mem_cons_of_mem _ member)

end Shows

section Drawing

variable (config : Config)

theorem draws_clear : ∀ write ∈ clear config, Draws write := by
  intro write member
  simp only [clear, List.mem_cons, List.not_mem_nil, or_false] at member
  rcases member with rfl | rfl
  · exact Or.inr (Or.inr rfl)
  · exact Or.inr (Or.inl (UInt8.le_iff_toNat_le.mpr (command_le _ _)))

theorem draws_gotoxy (x y : UInt8) :
    ∀ write ∈ gotoxy config x y, Draws write := by
  intro write member
  rw [gotoxy, List.mem_singleton] at member
  rw [member]
  exact Or.inr (Or.inl (UInt8.le_iff_toNat_le.mpr (command_le _ _)))

theorem draws_writeString (string : List UInt8) :
    ∀ write ∈ writeString string, Draws write := by
  intro write member
  obtain ⟨character, -, rfl⟩ := List.mem_map.mp member
  exact Or.inl rfl

theorem draws_writeInteger (number : Int32) (requiredLength : UInt8) :
    ∀ write ∈ writeInteger number requiredLength, Draws write := by
  rw [writeInteger_text]
  exact draws_writeString _

theorem draws_writeChar (character : UInt8) :
    ∀ write ∈ [writeChar character], Draws write :=
  draws_writeString [character]

end Drawing

end HD44780

namespace GUI

open HD44780

variable (config : Config)

theorem draws_init : ∀ write ∈ init config, Draws write := by
  simp only [init, drawLayout, List.forall_mem_append]
  exact ⟨draws_clear config, ⟨⟨⟨⟨⟨draws_writeString _, draws_gotoxy config _ _⟩,
    draws_writeString _⟩, draws_gotoxy config _ _⟩, draws_writeString _⟩,
    draws_gotoxy config _ _⟩, draws_writeString _⟩

theorem draws_drawBMP280 (meas : BMP280Meas) :
    ∀ write ∈ drawBMP280 config meas, Draws write := by
  simp only [drawBMP280, temperatureText, pressureText,
    List.forall_mem_append]
  exact ⟨⟨⟨draws_gotoxy config _ _, ⟨⟨draws_writeInteger _ _,
    draws_writeChar _⟩, draws_writeInteger _ _⟩, draws_writeString _⟩,
    draws_gotoxy config _ _⟩, ⟨⟨draws_writeInteger _ _,
    draws_writeChar _⟩, draws_writeInteger _ _⟩, draws_writeString _⟩

theorem draws_drawDS18B20 (meas : DS18B20Meas) :
    ∀ write ∈ drawDS18B20 config meas, Draws write := by
  simp only [drawDS18B20, outdoorText, List.forall_mem_append]
  refine ⟨draws_gotoxy config _ _, ⟨⟨⟨?_, draws_writeInteger _ _⟩,
    draws_writeChar _⟩, draws_writeInteger _ _⟩, draws_writeString _⟩
  split <;> exact draws_writeChar _

theorem draws_drawDHT11 (meas : DHT11Meas) :
    ∀ write ∈ drawDHT11 config meas, Draws write := by
  simp only [drawDHT11, humidityText, List.forall_mem_append]
  exact ⟨draws_gotoxy config _ _, draws_writeInteger _ _,
    draws_writeString _⟩

theorem draws_update (shown : Shown) :
    ∀ write ∈ update config shown, Draws write := by
  simp only [update, List.forall_mem_append]
  exact ⟨⟨draws_drawBMP280 config _, draws_drawDS18B20 config _⟩,
    draws_drawDHT11 config _⟩

theorem draws_updates (updates : List Shown) :
    ∀ write ∈ init config ++ updates.flatMap (update config),
      Draws write := by
  rw [List.forall_mem_append]
  refine ⟨draws_init config, ?_⟩
  intro write member
  obtain ⟨shown, -, written⟩ := List.mem_flatMap.mp member
  exact draws_update config shown write written

/-- From pulses to characters: a display that was not left out of phase ends up
with the screen of these updates in its memory, whatever was in it before. -/
theorem ddram_received {interface : Interface}
    (inPhase : ∀ high, interface = .pending high → high = 3)
    (controller : Controller) (before : Screen) (updates : List Shown)
    {inputs : List (Pulse × Nibble)}
    (pulses : inputs.map Prod.fst =
      (HD44780.init .configured ++ (init .configured ++
        updates.flatMap (update .configured))).flatMap pulsesOf) :
    (controller.receiveAll
        (Interface.machine.trace interface inputs)).ddram =
      (screenAfter before updates).ddram := by
  have draws := draws_updates .configured updates
  obtain ⟨waking, received⟩ :=
    received_after_waking Config.configured_valid inPhase
      (fun write member => not_selectsEightBit_of_draws (draws write member))
      pulses
  have increasing : Config.configured.Increasing :=
    ⟨Or.inl rfl, by decide⟩
  have settled :=
    Controller.receiveAll_settings increasing (controller.receiveAll waking)
  have blank : Shows ((controller.receiveAll waking).receiveAll
      ((settings Config.configured).map writeCmd))
        { ddram := fun _ => Screen.blank, address := 0 } := by
    rw [settled]
    exact ⟨rfl, rfl, rfl, rfl⟩
  rw [received, Controller.receiveAll_append, Controller.receiveAll_append,
    (blank.receiveAll draws).ddram, ddram_screenAfter]
  exact ddram_screenAfter _ updates

end GUI

end QuarkMeteoStation
