import QuarkMeteoStation.GUI.Fields
import QuarkMeteoStation.HD44780.Display

namespace QuarkMeteoStation

open Library
open Library.Decimal

/-! The visible screen after any number of updates: four fields drawn side by
side over whatever the earlier updates left. -/

namespace GUI

open HD44780

/-- The display after `GUI_init` and these updates, whatever it showed before. -/
def screenAfter (before : Screen) (updates : List Shown) : Screen :=
  before.receiveAll (init Config.configured ++
    updates.flatMap (update Config.configured))

def SameVisible (first second : Screen) : Prop :=
  ∀ address, Screen.Visible address → first.ddram address = second.ddram address

/-- The characters of `GUI_draw_layout` that name the four fields. -/
def labels : List (Nat × UInt8) :=
  [(0, 73), (1, 58), (11, 79), (12, 58), (0x40, 80), (0x41, 58), (0x4E, 72),
    (0x4F, 58)]

def LabelsIntact (screen : Screen) : Prop :=
  ∀ label ∈ labels, screen.ddram label.1 = label.2

/-- The memory after one update. -/
def drawFields (cells : Nat → UInt8) (shown : Shown) : Nat → UInt8 :=
  stamp (stamp (stamp (stamp cells 3 (temperatureField shown))
    0x43 (pressureField shown)) 13 (outdoorField shown))
    0x51 (humidityField shown)

def layoutCells : Nat → UInt8 :=
  stamp (stamp (stamp (stamp (fun _ => Screen.blank) 0 (ascii "I: "))
    0x40 (ascii "P: ")) 11 (ascii "O: ")) 0x4E (ascii "H: ")

section Drawing

theorem ddram_init (before : Screen) :
    (before.receiveAll (init Config.configured)).ddram = layoutCells := by
  let cleared : Screen := { ddram := fun _ => Screen.blank, address := 0 }
  have home : before.receiveAll (clear Config.configured) = cleared := rfl
  have indoor := cleared.receiveAll_text (ascii "I: ") (Or.inl (by decide))
  rw [init, Screen.receiveAll_append, home, drawLayout,
    Screen.receiveAll_drawn (fun _ => rfl) (Or.inr (by decide)),
    Screen.receiveAll_drawn (fun _ => rfl) (Or.inl (by decide)),
    Screen.receiveAll_drawn (fun _ => rfl) (Or.inr (by decide)), indoor]
  rfl

theorem ddram_drawBMP280 (screen : Screen) (shown : Shown) :
    (screen.receiveAll
        (drawBMP280 Config.configured shown.bmp280Meas)).ddram =
      stamp (stamp screen.ddram 3 (temperatureField shown))
        0x43 (pressureField shown) := by
  have temperature := length_temperatureField_le shown
  have pressure := length_pressureField_le shown
  have upper := @Screen.receiveAll_drawn (gotoxy Config.configured 1 4) 3
    (fun _ => rfl) (temperatureField shown) (Or.inl (by omega)) screen []
  have lower := @Screen.receiveAll_drawn (gotoxy Config.configured 2 4) 0x43
    (fun _ => rfl) (pressureField shown) (Or.inr ⟨by decide, by omega⟩) screen
    ([] ++ gotoxy Config.configured 1 4 ++
      writeString (temperatureField shown))
  rw [upper] at lower
  rw [drawBMP280, temperatureText_eq, pressureText_eq]
  exact lower

theorem ddram_drawDS18B20 (screen : Screen) (shown : Shown) :
    (screen.receiveAll
        (drawDS18B20 Config.configured shown.ds18b20Meas)).ddram =
      stamp screen.ddram 13 (outdoorField shown) := by
  have length := (length_outdoorField shown).2
  rw [drawDS18B20, outdoorText_eq]
  exact @Screen.receiveAll_drawn (gotoxy Config.configured 1 14) 13
    (fun _ => rfl) (outdoorField shown) (Or.inl (by omega)) screen []

theorem ddram_drawDHT11 (screen : Screen) (shown : Shown) :
    (screen.receiveAll
        (drawDHT11 Config.configured shown.dht11Meas)).ddram =
      stamp screen.ddram 0x51 (humidityField shown) := by
  have length := length_humidityField_le shown
  rw [drawDHT11, humidityText_eq]
  exact @Screen.receiveAll_drawn (gotoxy Config.configured 2 18) 0x51
    (fun _ => rfl) (humidityField shown) (Or.inr ⟨by decide, by omega⟩)
    screen []

theorem ddram_update (screen : Screen) (shown : Shown) :
    (screen.receiveAll (update Config.configured shown)).ddram =
      drawFields screen.ddram shown := by
  rw [update, Screen.receiveAll_append, Screen.receiveAll_append,
    ddram_drawDHT11, ddram_drawDS18B20, ddram_drawBMP280, drawFields]

theorem ddram_updates (screen : Screen) (updates : List Shown) :
    (screen.receiveAll
        (updates.flatMap (update Config.configured))).ddram =
      updates.foldl drawFields screen.ddram := by
  induction updates generalizing screen with
  | nil => rfl
  | cons shown updates induction =>
      rw [List.flatMap_cons, Screen.receiveAll_append, induction, ddram_update,
        List.foldl_cons]

theorem ddram_screenAfter (before : Screen) (updates : List Shown) :
    (screenAfter before updates).ddram =
      updates.foldl drawFields layoutCells := by
  rw [screenAfter, Screen.receiveAll_append, ddram_updates, ddram_init]

end Drawing

section Cells

variable {before : Screen} {updates : List Shown} {address : Nat}

theorem foldl_drawFields {offset : Nat} {field : Shown → List UInt8}
    (touched : ∀ cells shown, drawFields cells shown address =
      (field shown).getD offset (cells address))
    (cells : Nat → UInt8) (updates : List Shown) :
    updates.foldl drawFields cells address =
      overwritten (cells address) offset (updates.map field) := by
  induction updates using List.reverseRecOn with
  | nil => rfl
  | append_singleton earlier last induction =>
      rw [List.foldl_append, List.foldl_cons, List.foldl_nil, touched,
        List.map_append, List.map_singleton, overwritten_concat, induction]

theorem cell_temperature (from3 : 3 ≤ address) (to13 : address < 13) :
    (screenAfter before updates).ddram address =
      overwritten (layoutCells address) (address - 3)
        (updates.map temperatureField) := by
  rw [ddram_screenAfter]
  apply foldl_drawFields
  intro cells shown
  rw [drawFields, stamp_of_lt (by omega), stamp_of_lt to13,
    stamp_of_lt (by omega), stamp_inside from3]

theorem cell_pressure (from0x43 : 0x43 ≤ address) (to0x51 : address < 0x51) :
    (screenAfter before updates).ddram address =
      overwritten (layoutCells address) (address - 0x43)
        (updates.map pressureField) := by
  rw [ddram_screenAfter]
  apply foldl_drawFields
  intro cells shown
  have outdoor := (length_outdoorField shown).2
  have temperature := length_temperatureField_le shown
  rw [drawFields, stamp_of_lt to0x51, stamp_of_le _ (by omega),
    stamp_inside from0x43, stamp_of_le _ (by omega)]

theorem cell_outdoor (from13 : 13 ≤ address) (to20 : address < 20) :
    (screenAfter before updates).ddram address =
      overwritten (layoutCells address) (address - 13)
        (updates.map outdoorField) := by
  rw [ddram_screenAfter]
  apply foldl_drawFields
  intro cells shown
  have length := (length_outdoorField shown).1
  rw [drawFields, stamp_of_lt (by omega), stamp_inside from13,
    List.getD_eq_getElem _ _ (by omega), List.getD_eq_getElem _ _ (by omega)]

theorem cell_humidity (from0x51 : 0x51 ≤ address) :
    (screenAfter before updates).ddram address =
      overwritten (layoutCells address) (address - 0x51)
        (updates.map humidityField) := by
  rw [ddram_screenAfter]
  apply foldl_drawFields
  intro cells shown
  have outdoor := (length_outdoorField shown).2
  have temperature := length_temperatureField_le shown
  have pressure := length_pressureField_le shown
  have digits := length_numeral_pos shown.dht11Meas.humidity.toNat
  have humidity := length_humidityField shown
  rw [drawFields, stamp_inside from0x51]
  by_cases covered : address < 0x53
  · rw [List.getD_eq_getElem _ _ (by omega), List.getD_eq_getElem _ _ (by omega)]
  · rw [stamp_of_le _ (by omega), stamp_of_le _ (by omega),
      stamp_of_le _ (by omega)]

theorem cell_untouched
    (outside : address < 3 ∨ 0x40 ≤ address ∧ address < 0x43) :
    (screenAfter before updates).ddram address = layoutCells address := by
  have kept := @foldl_drawFields address 0 (fun _ => []) (by
    intro cells shown
    have outdoor := (length_outdoorField shown).2
    have temperature := length_temperatureField_le shown
    rw [drawFields, stamp_of_lt (by omega)]
    rcases outside with first | ⟨low, high⟩
    · rw [stamp_of_lt (by omega), stamp_of_lt (by omega), stamp_of_lt first]
      rfl
    · rw [stamp_of_le _ (by omega), stamp_of_lt high, stamp_of_le _ (by omega)]
      rfl) layoutCells updates
  rw [ddram_screenAfter, kept]
  apply overwritten_map_of_short
  intro shown _
  exact Nat.le_refl 0

/-- A cell that every text of its field reaches shows the last one. -/
theorem covered_fresh {field : Shown → List UInt8} {old : UInt8} {offset : Nat}
    (earlier : List Shown) {last : Shown}
    (covered : offset < (field last).length) :
    overwritten old offset ((earlier ++ [last]).map field) =
      overwritten old offset ([last].map field) := by
  rw [List.map_append, List.map_singleton, overwritten_concat,
    List.getD_eq_getElem _ _ covered]
  exact (List.getD_eq_getElem _ _ covered).symm

end Cells

section OnlyCurrent

variable {before : Screen} {earlier : List Shown} {last : Shown}

/-- The screen is the one a fresh display would show, and its labels stand. -/
structure OnlyCurrent (before : Screen) (earlier : List Shown)
    (last : Shown) : Prop where
  fresh : SameVisible (screenAfter before (earlier ++ [last]))
    (screenAfter before [last])
  labels : LabelsIntact (screenAfter before (earlier ++ [last]))

/-- Every text but the last is followed by one at most one character shorter. -/
def Followed (width : Shown → Nat) (earlier : List Shown) (last : Shown) :
    Prop :=
  ∀ older shown newer, earlier = older ++ shown :: newer →
    ∃ later ∈ newer ++ [last], width shown ≤ width later + 1

structure Legible (earlier : List Shown) (last : Shown) : Prop where
  temperatureFits : ∀ shown ∈ earlier ++ [last], temperatureWidth shown ≤ 8
  pressureFits : ∀ shown ∈ earlier ++ [last], pressureWidth shown ≤ 11
  temperatureFollowed : Followed temperatureWidth earlier last
  pressureFollowed : Followed pressureWidth earlier last
  humidityErased : 10 ≤ last.dht11Meas.humidity.toNat ∨
    ∀ shown ∈ earlier, shown.dht11Meas.humidity.toNat < 10

theorem OnlyCurrent.temperatureFits (current : OnlyCurrent before earlier last) :
    ∀ shown ∈ earlier ++ [last], temperatureWidth shown ≤ 8 := by
  have label : (screenAfter before (earlier ++ [last])).ddram 11 = 79 :=
    current.labels (11, 79) (by decide)
  rw [cell_temperature (by decide) (by decide)] at label
  have short := short_of_overwritten_map_eq not_mem_temperatureField label
  intro shown member
  rw [← length_temperatureField]
  exact short shown member

theorem OnlyCurrent.pressureFits (current : OnlyCurrent before earlier last) :
    ∀ shown ∈ earlier ++ [last], pressureWidth shown ≤ 11 := by
  have label : (screenAfter before (earlier ++ [last])).ddram 0x4E = 72 :=
    current.labels (0x4E, 72) (by decide)
  rw [cell_pressure (by decide) (by decide)] at label
  have short := short_of_overwritten_map_eq not_mem_pressureField label
  intro shown member
  rw [← length_pressureField]
  exact short shown member

theorem layoutCells_temperature :
    ∀ offset < 8, layoutCells (3 + offset) = Screen.blank := by
  decide

theorem layoutCells_pressure :
    ∀ offset < 11, layoutCells (0x43 + offset) = Screen.blank := by
  decide

theorem layoutCells_humidity : layoutCells 0x53 = Screen.blank := rfl

/-- A field that stays in front of its neighbour is fresh exactly when no text
is followed by much shorter ones only. -/
theorem field_fresh_iff {field : Shown → List UInt8} {width : Shown → Nat}
    {start limit stop : Nat}
    (cell : ∀ updates address, start ≤ address → address < stop →
      (screenAfter before updates).ddram address =
        overwritten (layoutCells address) (address - start)
          (updates.map field))
    (blank : ∀ offset < limit, layoutCells (start + offset) = Screen.blank)
    (inside : start + limit ≤ stop)
    (ended : ∀ shown, Ended Screen.blank (field shown))
    (measured : ∀ shown, (field shown).length = width shown)
    (fits : ∀ shown ∈ earlier ++ [last], width shown ≤ limit) :
    (∀ address, start ≤ address → address < stop →
        (screenAfter before (earlier ++ [last])).ddram address =
          (screenAfter before [last]).ddram address) ↔
      Followed width earlier last := by
  have below := @overwritten_map_fresh_below_iff UInt8 Shown Screen.blank field
    earlier last limit ended (by
      intro shown member
      rw [measured]
      exact fits shown member)
  simp only [measured] at below
  rw [Followed, ← below]
  constructor
  · intro same offset reachable
    have here := same (start + offset) (by omega) (by omega)
    rw [cell _ _ (by omega) (by omega), cell _ _ (by omega) (by omega),
      blank offset reachable, Nat.add_sub_cancel_left] at here
    exact here
  · intro fresh address after before
    rw [cell _ _ after before, cell _ _ after before]
    by_cases reachable : address - start < limit
    · have value := blank (address - start) reachable
      rw [show start + (address - start) = address by omega] at value
      rw [value]
      exact fresh _ reachable
    · have beyond := Nat.not_lt.mp reachable
      have short : ∀ shown ∈ earlier ++ [last],
          (field shown).length ≤ address - start := by
        intro shown member
        rw [measured]
        exact Nat.le_trans (fits shown member) beyond
      rw [overwritten_map_of_short short,
        overwritten_map_of_short fun shown member =>
          short shown (List.mem_append_right earlier member)]

theorem temperature_fresh_iff
    (fits : ∀ shown ∈ earlier ++ [last], temperatureWidth shown ≤ 8) :
    (∀ address, 3 ≤ address → address < 13 →
        (screenAfter before (earlier ++ [last])).ddram address =
          (screenAfter before [last]).ddram address) ↔
      Followed temperatureWidth earlier last :=
  field_fresh_iff (fun _ _ => cell_temperature) layoutCells_temperature
    (by decide) temperatureField_ended length_temperatureField fits

theorem pressure_fresh_iff
    (fits : ∀ shown ∈ earlier ++ [last], pressureWidth shown ≤ 11) :
    (∀ address, 0x43 ≤ address → address < 0x51 →
        (screenAfter before (earlier ++ [last])).ddram address =
          (screenAfter before [last]).ddram address) ↔
      Followed pressureWidth earlier last :=
  field_fresh_iff (fun _ _ => cell_pressure) layoutCells_pressure
    (by decide) pressureField_ended length_pressureField fits

theorem humidity_fresh_iff :
    (screenAfter before (earlier ++ [last])).ddram 0x53 =
        (screenAfter before [last]).ddram 0x53 ↔
      10 ≤ last.dht11Meas.humidity.toNat ∨
        ∀ shown ∈ earlier, shown.dht11Meas.humidity.toNat < 10 := by
  rw [cell_humidity (by decide), cell_humidity (by decide),
    layoutCells_humidity]
  by_cases wide : 10 ≤ last.dht11Meas.humidity.toNat
  · have reaches : 2 < (humidityField last).length := by
      have short := humidityField_short_iff last
      omega
    have covered := @covered_fresh humidityField Screen.blank 2 earlier last
      reaches
    exact iff_of_true covered (Or.inl wide)
  · have short := (humidityField_short_iff last).mpr (by omega)
    have single : overwritten Screen.blank 2 ([last].map humidityField) =
        Screen.blank := List.getD_eq_default _ _ short
    rw [show 0x53 - 0x51 = 2 from rfl, single, List.map_append,
      List.map_singleton, overwritten_concat, List.getD_eq_default _ _ short]
    constructor
    · intro kept
      have never := short_of_overwritten_map_eq not_mem_humidityField kept
      refine Or.inr fun shown member => ?_
      exact (humidityField_short_iff shown).mp (never shown member)
    · intro erased
      have narrow := erased.resolve_left wide
      apply overwritten_map_of_short
      intro shown member
      exact (humidityField_short_iff shown).mpr (narrow shown member)

theorem labelsIntact_of_fits
    (temperatureFits : ∀ shown ∈ earlier ++ [last], temperatureWidth shown ≤ 8)
    (pressureFits : ∀ shown ∈ earlier ++ [last], pressureWidth shown ≤ 11) :
    LabelsIntact (screenAfter before (earlier ++ [last])) := by
  have temperature : ∀ offset, 8 ≤ offset → ∀ shown ∈ earlier ++ [last],
      (temperatureField shown).length ≤ offset := by
    intro offset beyond shown member
    rw [length_temperatureField]
    exact Nat.le_trans (temperatureFits shown member) beyond
  have pressure : ∀ offset, 11 ≤ offset → ∀ shown ∈ earlier ++ [last],
      (pressureField shown).length ≤ offset := by
    intro offset beyond shown member
    rw [length_pressureField]
    exact Nat.le_trans (pressureFits shown member) beyond
  intro label member
  simp only [labels, List.mem_cons, List.not_mem_nil, or_false] at member
  rcases member with rfl | rfl | rfl | rfl | rfl | rfl | rfl | rfl
  · exact cell_untouched (by decide)
  · exact cell_untouched (by decide)
  · rw [cell_temperature (by decide) (by decide),
      overwritten_map_of_short (temperature _ (by decide))]
    rfl
  · rw [cell_temperature (by decide) (by decide),
      overwritten_map_of_short (temperature _ (by decide))]
    rfl
  · exact cell_untouched (by decide)
  · exact cell_untouched (by decide)
  · rw [cell_pressure (by decide) (by decide),
      overwritten_map_of_short (pressure _ (by decide))]
    rfl
  · rw [cell_pressure (by decide) (by decide),
      overwritten_map_of_short (pressure _ (by decide))]
    rfl

theorem sameVisible_of_fields
    (temperature : ∀ address, 3 ≤ address → address < 13 →
      (screenAfter before (earlier ++ [last])).ddram address =
        (screenAfter before [last]).ddram address)
    (pressure : ∀ address, 0x43 ≤ address → address < 0x51 →
      (screenAfter before (earlier ++ [last])).ddram address =
        (screenAfter before [last]).ddram address)
    (humidity : (screenAfter before (earlier ++ [last])).ddram 0x53 =
      (screenAfter before [last]).ddram 0x53) :
    SameVisible (screenAfter before (earlier ++ [last]))
      (screenAfter before [last]) := by
  have outdoorLength := (length_outdoorField last).1
  have digits := length_numeral_pos last.dht11Meas.humidity.toNat
  have humidityLength := length_humidityField last
  intro address visible
  unfold Screen.Visible at visible
  by_cases outside : address < 3 ∨ 0x40 ≤ address ∧ address < 0x43
  · rw [cell_untouched outside, cell_untouched outside]
  by_cases indoor : 3 ≤ address ∧ address < 13
  · exact temperature address indoor.1 indoor.2
  by_cases outdoor : 13 ≤ address ∧ address < 20
  · rw [cell_outdoor outdoor.1 outdoor.2, cell_outdoor outdoor.1 outdoor.2]
    exact covered_fresh earlier (by omega)
  by_cases barometric : 0x43 ≤ address ∧ address < 0x51
  · exact pressure address barometric.1 barometric.2
  by_cases end53 : address = 0x53
  · subst end53
    exact humidity
  · rw [cell_humidity (by omega), cell_humidity (by omega)]
    exact covered_fresh earlier (by omega)

theorem OnlyCurrent.legible (current : OnlyCurrent before earlier last) :
    Legible earlier last where
  temperatureFits := current.temperatureFits
  pressureFits := current.pressureFits
  temperatureFollowed :=
    (temperature_fresh_iff current.temperatureFits).mp fun address _ _ =>
      current.fresh address (Or.inl (by omega))
  pressureFollowed :=
    (pressure_fresh_iff current.pressureFits).mp fun address _ _ =>
      current.fresh address (Or.inr (by omega))
  humidityErased := humidity_fresh_iff.mp (current.fresh 0x53 (by decide))

/-- The screen keeps showing the current measurements alone exactly as long as
every text keeps to its field and none is followed by much shorter ones only. -/
theorem onlyCurrent_iff_legible (before : Screen) (earlier : List Shown)
    (last : Shown) :
    OnlyCurrent before earlier last ↔ Legible earlier last := by
  constructor
  · exact OnlyCurrent.legible
  · intro legible
    refine ⟨sameVisible_of_fields ?_ ?_ ?_, ?_⟩
    · exact (temperature_fresh_iff legible.temperatureFits).mpr
        legible.temperatureFollowed
    · exact (pressure_fresh_iff legible.pressureFits).mpr
        legible.pressureFollowed
    · exact humidity_fresh_iff.mpr legible.humidityErased
    · exact labelsIntact_of_fits legible.temperatureFits legible.pressureFits

/-- Twelve percent, then nine: the sign of the first is never erased. -/
theorem not_onlyCurrent_of_falling_humidity :
    ¬ ∀ before earlier last, OnlyCurrent before earlier last := by
  intro current
  have legible := (current { ddram := fun _ => Screen.blank, address := 0 }
    [⟨⟨101325, 2150⟩, ⟨.positive, 19, 50⟩, ⟨12, 20⟩⟩]
    ⟨⟨101325, 2150⟩, ⟨.positive, 19, 50⟩, ⟨9, 20⟩⟩).legible
  exact absurd legible.humidityErased (by decide)

end OnlyCurrent

end GUI

end QuarkMeteoStation
