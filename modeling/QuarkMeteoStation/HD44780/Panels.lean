import QuarkMeteoStation.HD44780.Controller

namespace QuarkMeteoStation

open Library

/-! Where the cells of a panel lie in the controller's memory. The rows of the
larger panels share its two lines, so that text put on one row could run into
another. -/

namespace HD44780

section Geometry

/-- The address of a row's first cell, rows counted from zero. -/
def TypeData.base (panel : TypeData) (row : Nat) : Nat :=
  (panel.rowsFirstAddr.getD row 0).toNat

/-- The rows of a panel lie apart, and each within one line. -/
structure TypeData.WellFormed (panel : TypeData) : Prop where
  rows : 1 ≤ panel.rows.toNat
  columns : 1 ≤ panel.columns.toNat
  apart : ∀ first < panel.rows.toNat, ∀ second < panel.rows.toNat,
    first ≠ second →
      panel.base first + panel.columns.toNat ≤ panel.base second ∨
        panel.base second + panel.columns.toNat ≤ panel.base first
  onLine : ∀ row < panel.rows.toNat,
    panel.modes.FitsLine (panel.base row) panel.columns.toNat

instance Screen.fitsLineDecidable (start length : Nat) :
    Decidable (Screen.FitsLine start length) :=
  inferInstanceAs (Decidable (_ ∨ _))

instance Modes.fitsLineDecidable (modes : Modes) (start length : Nat) :
    Decidable (modes.FitsLine start length) :=
  inferInstanceAs (Decidable (if modes.twoLines then _ else _))

theorem DisplayType.wellFormed (type : DisplayType) :
    type.typeData.WellFormed := by
  cases type <;> exact ⟨by decide, by decide, by decide, by decide⟩

end Geometry

/-- A visible cell, its row and column counted from one. -/
structure Cell (panel : TypeData) where
  row : Nat
  column : Nat
  rowPos : 1 ≤ row
  rowLe : row ≤ panel.rows.toNat
  columnPos : 1 ≤ column
  columnLe : column ≤ panel.columns.toNat

namespace Cell

variable {panel : TypeData}

def address (cell : Cell panel) : Nat :=
  panel.base (cell.row - 1) + (cell.column - 1)

theorem fitsLine (wellFormed : panel.WellFormed) (cell : Cell panel)
    {length : Nat} (inside : length ≤ panel.columns.toNat - cell.column + 1) :
    panel.modes.FitsLine cell.address length := by
  have rowPos := cell.rowPos
  have rowLe := cell.rowLe
  have columnPos := cell.columnPos
  have columnLe := cell.columnLe
  have row := wellFormed.onLine (cell.row - 1) (by omega)
  exact row.within (by omega)

theorem address_lt (wellFormed : panel.WellFormed) (cell : Cell panel) :
    cell.address < 0x80 := by
  have here := cell.fitsLine wellFormed (Nat.le_add_left 1 _)
  have line := here.lt
  omega

theorem address_injective (wellFormed : panel.WellFormed) :
    Function.Injective (address : Cell panel → Nat) := by
  rintro ⟨row, column, rowPos, rowLe, columnPos, columnLe⟩
    ⟨otherRow, otherColumn, otherRowPos, otherRowLe, otherColumnPos,
      otherColumnLe⟩ same
  simp only [address] at same
  have sameRow : row = otherRow := by
    by_contra different
    have apart := wellFormed.apart (row - 1) (by omega) (otherRow - 1)
      (by omega) (by omega)
    omega
  subst sameRow
  have sameColumn : column = otherColumn := by omega
  subst sameColumn
  rfl

end Cell

section Position

/-- The cell of two coordinates, each forced into the panel. -/
def TypeData.WellFormed.cellAt {panel : TypeData}
    (wellFormed : panel.WellFormed) (x y : UInt8) : Cell panel where
  row := max 1 (min x.toNat panel.rows.toNat)
  column := max 1 (min y.toNat panel.columns.toNat)
  rowPos := Nat.le_max_left 1 _
  rowLe := Nat.max_le.mpr ⟨wellFormed.rows, Nat.min_le_right _ _⟩
  columnPos := Nat.le_max_left 1 _
  columnLe := Nat.max_le.mpr ⟨wellFormed.columns, Nat.min_le_right _ _⟩

def Config.cellAt (config : Config) (x y : UInt8) :
    Cell config.displayType.typeData :=
  config.displayType.wellFormed.cellAt x y

private theorem toNat_clamped (limit value : UInt8)
    (positive : 1 ≤ limit.toNat) :
    (if limit < (if value < 1 then 1 else value) then limit
      else if value < 1 then 1 else value).toNat =
      max 1 (min value.toNat limit.toNat) := by
  have one : (1 : UInt8).toNat = 1 := rfl
  by_cases low : value < 1
  · rw [if_pos low]
    rw [UInt8.lt_iff_toNat_lt, one] at low
    have top : ¬limit < 1 := by
      rw [UInt8.lt_iff_toNat_lt, one]
      omega
    rw [if_neg top, one]
    omega
  · rw [if_neg low]
    rw [UInt8.lt_iff_toNat_lt, one] at low
    by_cases high : limit < value
    · rw [if_pos high]
      rw [UInt8.lt_iff_toNat_lt] at high
      omega
    · rw [if_neg high]
      rw [UInt8.lt_iff_toNat_lt] at high
      omega

private theorem toNat_offset {base column : UInt8}
    (positive : 1 ≤ column.toNat)
    (visible : base.toNat + (column.toNat - 1) < 0x80) :
    (base + column - 1).toNat = base.toNat + (column.toNat - 1) := by
  have one : (1 : UInt8).toNat = 1 := rfl
  have sum : (base + column).toNat = base.toNat + column.toNat := by
    rw [UInt8.toNat_add, Nat.mod_eq_of_lt (by omega)]
  have reaches : 1 ≤ base + column := by
    rw [UInt8.le_iff_toNat_le, one, sum]
    omega
  rw [UInt8.toNat_sub_of_le _ _ reaches, sum, one]
  omega

private theorem toNat_positionCommand {panel : TypeData}
    (wellFormed : panel.WellFormed) (cell : Cell panel) {row column : UInt8}
    (rowEq : row.toNat = cell.row) (columnEq : column.toNat = cell.column) :
    (setDdramAddrCmd |||
        (panel.rowsFirstAddr.getD (row - 1).toNat 0 + column - 1)).toNat =
      setDdramAddrCmd.toNat + cell.address := by
  have one : (1 : UInt8).toNat = 1 := rfl
  have visible := cell.address_lt wellFormed
  have index : (row - 1).toNat = cell.row - 1 := by
    have first : 1 ≤ row := by
      rw [UInt8.le_iff_toNat_le, one, rowEq]
      exact cell.rowPos
    rw [UInt8.toNat_sub_of_le _ _ first, rowEq, one]
  have offset := @toNat_offset
    (panel.rowsFirstAddr.getD (row - 1).toNat 0) column
    (by rw [columnEq]; exact cell.columnPos)
    (by rw [columnEq, index]; exact visible)
  have position : (panel.rowsFirstAddr.getD (row - 1).toNat 0 +
      column - 1).toNat = cell.address := by
    rw [offset, columnEq, index]
    rfl
  rw [UInt8.toNat_or, position]
  exact (@Nat.two_pow_add_eq_or_of_lt 7 cell.address visible 1).symm

/-- `HD44780_gotoxy` sends the address of the cell, as a command. -/
theorem gotoxy_eq (config : Config) (x y : UInt8) :
    ∃ command, gotoxy config x y = [writeCmd command] ∧
      command.toNat = setDdramAddrCmd.toNat + (config.cellAt x y).address := by
  have wellFormed := config.displayType.wellFormed
  have row := toNat_clamped config.displayType.typeData.rows x
    wellFormed.rows
  have column := toNat_clamped config.displayType.typeData.columns y
    wellFormed.columns
  have command :=
    toNat_positionCommand wellFormed (config.cellAt x y) row column
  exact ⟨_, rfl, command⟩

theorem setDdramAddr_le {command : UInt8} {address : Nat}
    (value : command.toNat = setDdramAddrCmd.toNat + address) :
    setDdramAddrCmd ≤ command := by
  rw [UInt8.le_iff_toNat_le, value]
  exact Nat.le_add_right _ _

end Position

section Text

universe u

variable {panel : TypeData}

/-- What a text from a cell on makes of the visible cells: it fills the cells
from there to its end, and leaves all others. -/
structure Placed (start : Cell panel) (text : List UInt8)
    (before after : Nat → UInt8) : Prop where
  holds : ∀ offset (inside : offset < text.length), ∃ cell : Cell panel,
    cell.row = start.row ∧ cell.column = start.column + offset ∧
      after cell.address = text[offset]
  frame : ∀ cell : Cell panel,
    (cell.row = start.row → cell.column < start.column ∨
      start.column + text.length ≤ cell.column) →
    after cell.address = before cell.address

theorem placed_stamp (wellFormed : panel.WellFormed) (start : Cell panel)
    {text : List UInt8}
    (fits : text.length ≤ panel.columns.toNat - start.column + 1)
    (before : Nat → UInt8) :
    Placed start text before (stamp before start.address text) := by
  have columnPos := start.columnPos
  have columnLe := start.columnLe
  constructor
  · intro offset inside
    let cell : Cell panel :=
      ⟨start.row, start.column + offset, start.rowPos, start.rowLe,
        by omega, by omega⟩
    have position : cell.address = start.address + offset := by
      simp only [Cell.address, cell]
      omega
    refine ⟨cell, rfl, rfl, ?_⟩
    rw [position, stamp_inside (Nat.le_add_right _ _), Nat.add_sub_cancel_left,
      List.getD_eq_getElem _ _ inside]
  · intro cell elsewhere
    have cellPos := cell.columnPos
    have cellLe := cell.columnLe
    by_cases sameRow : cell.row = start.row
    · rcases elsewhere sameRow with left | right
      · apply stamp_of_lt
        unfold Cell.address
        rw [sameRow]
        omega
      · apply stamp_of_le
        unfold Cell.address
        rw [sameRow]
        omega
    · have rowPos := cell.rowPos
      have startPos := start.rowPos
      have rowLe := cell.rowLe
      have startLe := start.rowLe
      have apart := wellFormed.apart (cell.row - 1) (by omega)
        (start.row - 1) (by omega) (by omega)
      rcases apart with before | behind
      · apply stamp_of_lt
        unfold Cell.address
        omega
      · apply stamp_of_le
        unfold Cell.address
        omega

variable {State : Type u} {display : Display State} {state : State}
  {config : Config} {x y : UInt8} {string : Buffer} {text : List UInt8}

theorem receiveAll_gotoxy (lawful : display.Lawful) (x y : UInt8)
    (modes : display.modes state = config.displayType.typeData.modes) :
    let moved := display.receiveAll state (gotoxy config x y)
    display.ddram moved = display.ddram state ∧
      display.cursor moved = some (config.cellAt x y).address ∧
      display.modes moved = display.modes state := by
  obtain ⟨command, sent, value⟩ := gotoxy_eq config x y
  have position := setDdramAddr_le value
  have address : (command - setDdramAddrCmd).toNat =
      (config.cellAt x y).address := by
    rw [UInt8.toNat_sub_of_le _ _ position, value, Nat.add_sub_cancel_left]
  have here := (config.cellAt x y).fitsLine config.displayType.wellFormed
    (Nat.le_add_left 1 _)
  rw [← modes, ← address] at here
  rw [sent, ← address]
  exact lawful.position state position here

/-- Text at a position, from any state in the panel's modes. -/
theorem placed_text (lawful : display.Lawful) (holds : string.Holds text)
    (fits : text.length ≤ config.displayType.typeData.columns.toNat -
      (config.cellAt x y).column + 1)
    (modes : display.modes state = config.displayType.typeData.modes) :
    Placed (config.cellAt x y) text (display.ddram state)
      (display.ddram (display.receiveAll state
        (gotoxy config x y ++ writeString string.cstring))) := by
  have wellFormed := config.displayType.wellFormed
  obtain ⟨ddram, cursor, kept⟩ := receiveAll_gotoxy lawful x y modes
  have line := (config.cellAt x y).fitsLine wellFormed fits
  rw [← modes, ← kept] at line
  have increment : (display.modes
      (display.receiveAll state (gotoxy config x y))).increment = true := by
    rw [kept, modes]
    rfl
  have written := lawful.receiveAll_text cursor increment line
  rw [holds.cstring_eq, Display.receiveAll_append, written, ddram]
  exact placed_stamp wellFormed (config.cellAt x y) fits (display.ddram state)

/-- Positioned text changes exactly the cells it is addressed to. -/
theorem positioned_text (lawful : display.Lawful) (holds : string.Holds text)
    (fits : text.length ≤ config.displayType.typeData.columns.toNat -
      (config.cellAt x y).column + 1)
    (modes : display.modes state = config.displayType.typeData.modes) :
    Placed (config.cellAt x y) text (display.ddram state)
        (display.ddram (display.receiveAll state
          (gotoxy config x y ++ writeString string.cstring))) ∧
      Function.Injective
        (Cell.address : Cell config.displayType.typeData → Nat) ∧
      (∀ cell : Cell config.displayType.typeData, cell.address < 0x80) ∧
      ∃ command, gotoxy config x y = [writeCmd command] ∧
        setDdramAddrCmd ≤ command ∧
        command.toNat =
          setDdramAddrCmd.toNat + (config.cellAt x y).address := by
  have wellFormed := config.displayType.wellFormed
  obtain ⟨command, sent, value⟩ := gotoxy_eq config x y
  exact ⟨placed_text lawful holds fits modes,
    Cell.address_injective wellFormed, Cell.address_lt wellFormed,
    command, sent, setDdramAddr_le value, value⟩

theorem positioned_text_third_row :
    let config := { Config.configured with type := some .display20x4 }
    let string : Buffer := ⟨ascii "%C" ++ [0], 0⟩
    let controller : Controller :=
      ⟨fun _ => Screen.blank, fun _ => 0, true, 0, ⟨true, true⟩⟩
    Placed (config.cellAt 3 19) (ascii "%C") controller.ddram
      (controller.receiveAll
        (gotoxy config 3 19 ++ writeString string.cstring)).ddram := by
  intro config string controller
  have holds : string.Holds (ascii "%C") := ⟨by decide, [], rfl⟩
  exact (@positioned_text Controller Controller.display controller config
    3 19 string (ascii "%C") Controller.display_lawful holds (by decide)
    rfl).1

/-- The same of the controller at any time after an initialisation that lets the
cursor increase. -/
theorem placed_text_in_session {since : List Write}
    (session : Controller.Session config since)
    (increasing : config.Increasing) (holds : string.Holds text)
    (fits : text.length ≤ config.displayType.typeData.columns.toNat -
      (config.cellAt x y).column + 1)
    (before : Controller) :
    let reached := before.receiveAll (init config ++ since)
    Placed (config.cellAt x y) text reached.ddram
      (reached.receiveAll
        (gotoxy config x y ++ writeString string.cstring)).ddram := by
  intro reached
  exact @placed_text Controller Controller.display reached config x y string
    text Controller.display_lawful holds fits
    (session.modes_eq increasing before)

end Text

end HD44780

end QuarkMeteoStation
