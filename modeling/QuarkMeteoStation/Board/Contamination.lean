import QuarkMeteoStation.Board
import QuarkMeteoStation.Main.Pace
import QuarkMeteoStation.Main.Shares

namespace QuarkMeteoStation

open Library

/-! What a failed sensor transaction does to the averages. -/

namespace Station

/-- The sensor readout of one cycle, with whatever ticks fall into it: from the
switch over `DS18B20_state` to the switch over `ESP_state`. -/
structure Readout (period : UpdatePeriod) (before : Station)
    (actions : List Action) : Prop where
  begins : before.control.point = .switchDS18B20State
  within : (machine period).Along
    (fun station _ => station.control.point ≠ .switchESPState) before actions
  ends : ((machine period).exec before actions).control.point = .switchESPState

/-- A statement that every readout that begins early passes exactly once. -/
structure Passage (period : UpdatePeriod) (update : Point) where
  early : Control → Prop
  late : Control → Prop
  early_tick : ∀ control, early control → early (control.timerCallback period)
  late_tick : ∀ control, late control → late (control.timerCallback period)
  waits : ∀ control, early control → control.point ≠ update →
    early (control.next period)
  passes : ∀ control, early control → control.point = update →
    late (control.next period)
  stays : ∀ control, late control → control.point ≠ .switchESPState →
    late (control.next period)
  unended : ∀ control, early control → control.point ≠ .switchESPState
  early_kept : ∀ control, early control → control.point ≠ .averageReset
  late_kept : ∀ control, late control → control.point ≠ .averageReset
  past : ∀ control, late control → control.point ≠ update

theorem Passage.updates {period : UpdatePeriod} {update : Point}
    (passage : Passage period update) {Share : Type} {share : Averages → Share}
    (updatedAt : UpdatedAt update share) {before : Station}
    {actions : List Action} (readout : Readout period before actions)
    (begins : passage.early before.control) :
    ∃ data readings,
      share data.averages = share before.data.averages ∧
      share ((machine period).exec before actions).data.averages =
        share (Data.execute update readings data).averages := by
  have phase := readout.within.invariant
    (fun station =>
      (passage.early station.control ∧
        share station.data.averages = share before.data.averages) ∨
      (passage.late station.control ∧ ∃ data readings,
        share data.averages = share before.data.averages ∧
        share station.data.averages =
          share (Data.execute update readings data).averages))
    (by
      intro station action unended phase
      rcases phase with ⟨early, same⟩ | ⟨late, updated⟩
      · cases action with
        | timerCallback => exact Or.inl ⟨passage.early_tick _ early, same⟩
        | mainStep readings =>
            by_cases updating : station.control.point = update
            · refine Or.inr ⟨passage.passes _ early updating, station.data,
                readings, same, ?_⟩
              rw [← updating]
              rfl
            · refine Or.inl ⟨passage.waits _ early updating, ?_⟩
              exact (updatedAt _ readings _ (passage.early_kept _ early)
                updating).trans same
      · cases action with
        | timerCallback => exact Or.inr ⟨passage.late_tick _ late, updated⟩
        | mainStep readings =>
            refine Or.inr ⟨passage.stays _ late unended, ?_⟩
            obtain ⟨data, taken, same, after⟩ := updated
            refine ⟨data, taken, same, ?_⟩
            exact (updatedAt _ readings _ (passage.late_kept _ late)
              (passage.past _ late)).trans after)
    (Or.inl ⟨begins, rfl⟩)
  rcases phase with ⟨early, -⟩ | ⟨-, updated⟩
  · exact absurd readout.ends (passage.unended _ early)
  · exact updated

def settled (control : Control) : Prop :=
  control.point = .getDHT11 ∨ control.point = .averageUpdateDHT11 ∨
    control.point = .switchESPState

section Settling

variable {period : UpdatePeriod} {control : Control}

theorem settled_next (late : settled control)
    (unended : control.point ≠ .switchESPState) :
    settled (control.next period) := by
  rcases late with point | point | point
  · simp [settled, Control.next, point]
  · simp [settled, Control.next, point]
  · exact absurd point unended

/-- The cycle takes its BMP280 reading and settles. -/
theorem settling_next
    (late : control.point = .getBMP280 ∨
      control.point = .averageUpdateBMP280 ∨ settled control)
    (unended : control.point ≠ .switchESPState) :
    (control.next period).point = .getBMP280 ∨
      (control.next period).point = .averageUpdateBMP280 ∨
      settled (control.next period) := by
  rcases late with point | point | late
  · simp [Control.next, point]
  · simp [Control.next, point, settled]
  · exact Or.inr (Or.inr (settled_next late unended))

end Settling

def bmp280Passage (period : UpdatePeriod) :
    Passage period .averageUpdateBMP280 where
  early := fun control => control.point.sampling = true
  late := settled
  early_tick := by simp
  late_tick := by simp [settled]
  waits := by
    rintro ⟨point, updateState, espState, ticks, readout, counter⟩ early other
    cases point with
    | switchDS18B20State => cases readout <;> rfl
    | _ => simp_all [Point.sampling, Control.next]
  passes := by
    intro control _ updating
    simp [settled, Control.next, updating]
  stays := by
    intro control late unended
    exact settled_next late unended
  unended := by
    intro control early
    cases point : control.point <;> simp_all [Point.sampling]
  early_kept := by
    intro control early
    cases point : control.point <;> simp_all [Point.sampling]
  late_kept := by
    rintro control (point | point | point) <;> simp [point]
  past := by
    rintro control (point | point | point) <;> simp [point]

/-- A cycle that finds `DS18B20_state` at `GET_MEASUREMENT`. -/
def ds18b20Passage (period : UpdatePeriod) :
    Passage period .averageUpdateDS18B20 where
  early := fun control =>
    control.point = .switchDS18B20State ∧
        control.ds18b20State = .getMeasurement ∨
      control.point = .getTemperature ∨ control.point = .averageUpdateDS18B20
  late := fun control =>
    control.point = .setRequestConversion ∨ control.point = .getBMP280 ∨
      control.point = .averageUpdateBMP280 ∨ settled control
  early_tick := by simp
  late_tick := by simp [settled]
  waits := by
    rintro control (⟨point, readout⟩ | point | point) other
    · simp [Control.next, point, readout]
    · simp [Control.next, point]
    · exact absurd point other
  passes := by
    intro control _ updating
    simp [Control.next, updating]
  stays := by
    rintro control (point | late) unended
    · simp [Control.next, point]
    · exact Or.inr (settling_next late unended)
  unended := by
    rintro control (⟨point, -⟩ | point | point) <;> simp [point]
  early_kept := by
    rintro control (⟨point, -⟩ | point | point) <;> simp [point]
  late_kept := by
    rintro control (point | point | point | point | point | point) <;>
      simp [point]
  past := by
    rintro control (point | point | point | point | point | point) <;>
      simp [point]

def TakesValidDHT11 (station : Station) : Action → Prop
  | .timerCallback => True
  | .mainStep readings =>
      station.control.point = .getDHT11 → readings.dht11.Valid

namespace Readout

variable {period : UpdatePeriod} {before : Station} {actions : List Action}

/-- The count of BMP280 readings rises, however the reading came about. -/
theorem bmp280_changed (readout : Readout period before actions) :
    ((machine period).exec before actions).data.averages.ofBMP280 ≠
      before.data.averages.ofBMP280 := by
  obtain ⟨data, readings, same, after⟩ :=
    (bmp280Passage period).updates ofBMP280_updatedAt readout
      (by simp [bmp280Passage, readout.begins, Point.sampling])
  rw [after, ← same]
  intro unchanged
  have counted := congrArg (fun share => share.1.measNum) unchanged
  simp [Data.execute, averageUpdateBMP280, Averages.ofBMP280] at counted

theorem ds18b20_changed (readout : Readout period before actions)
    (measuring : before.control.ds18b20State = .getMeasurement) :
    ((machine period).exec before actions).data.averages.ofDS18B20 ≠
      before.data.averages.ofDS18B20 := by
  obtain ⟨data, readings, same, after⟩ :=
    (ds18b20Passage period).updates ofDS18B20_updatedAt readout
      (Or.inl ⟨readout.begins, measuring⟩)
  rw [after, ← same]
  intro unchanged
  have counted := congrArg (fun share => share.1.measNum) unchanged
  simp [Data.execute, averageUpdateDS18B20, Averages.ofDS18B20] at counted

theorem untaken (readout : Readout period before actions)
    (requesting : before.control.ds18b20State = .requestConversion) :
    (machine period).Along
      (fun station _ => station.control.point ≠ .getTemperature) before
      actions := by
  refine readout.within.strengthen
    (fun station =>
      station.control.point = .switchDS18B20State ∧
          station.control.ds18b20State = .requestConversion ∨
        station.control.point = .requestConversion ∨
        station.control.point = .setGetMeasurement ∨
        station.control.point = .getBMP280 ∨
        station.control.point = .averageUpdateBMP280 ∨
        settled station.control)
    ?_ ?_ (Or.inl ⟨readout.begins, requesting⟩)
  · intro station action unended elsewhere
    cases action with
    | timerCallback =>
        simpa [Station.step, settled] using elsewhere
    | mainStep readings =>
        rw [machine_step, Station.step]
        rcases elsewhere with ⟨point, readout⟩ | point | point | late
        · simp [Control.next, point, readout]
        · simp [Control.next, point]
        · simp [Control.next, point]
        · exact Or.inr (Or.inr (Or.inr (settling_next late unended)))
  · rintro station - - (⟨point, -⟩ | point | point | point | point | point |
      point | point) <;> simp [point]

theorem sampling_next {control : Control}
    (sampling : control.point.sampling = true) :
    (control.next period).point.sampling = true ∨
      (control.next period).point = .getDHT11 := by
  obtain ⟨point, updateState, espState, ticks, readout, counter⟩ := control
  cases point with
  | switchDS18B20State => cases readout <;> exact Or.inl rfl
  | _ => simp_all [Point.sampling, Control.next]

/-- How far a readout has come with the DHT11, where `valid` says whether the
reading was: its averages stay untouched until it has been averaged. -/
inductive DHT11Phase (before station : Station) (valid : Prop) : Prop
  | unread
      (early : station.control.point.sampling = true ∨
        station.control.point = .getDHT11)
      (sofar : valid)
      (same : station.data.averages.ofDHT11 = before.data.averages.ofDHT11)
  | read (point : station.control.point = .averageUpdateDHT11)
      (outcome : valid ∨ ¬station.data.dht11Meas.Valid)
      (same : station.data.averages.ofDHT11 = before.data.averages.ofDHT11)
  | averaged (point : station.control.point = .switchESPState)
      (outcome : valid ∨
        station.data.averages.ofDHT11 = before.data.averages.ofDHT11)

namespace DHT11Phase

variable {station : Station} {valid : Prop}

theorem timerCallback (phase : DHT11Phase before station valid) :
    DHT11Phase before (station.step period .timerCallback)
      (valid ∧ TakesValidDHT11 station .timerCallback) := by
  cases phase with
  | unread early sofar same =>
      exact .unread (by simpa [Station.step] using early) ⟨sofar, trivial⟩ same
  | read point outcome same =>
      exact .read (by simpa [Station.step] using point)
        (outcome.imp_left fun sofar => ⟨sofar, trivial⟩) same
  | averaged point outcome =>
      exact .averaged (by simpa [Station.step] using point)
        (outcome.imp_left fun sofar => ⟨sofar, trivial⟩)

theorem mainStep (phase : DHT11Phase before station valid)
    (unended : station.control.point ≠ .switchESPState) (readings : Readings) :
    DHT11Phase before (station.step period (.mainStep readings))
      (valid ∧ TakesValidDHT11 station (.mainStep readings)) := by
  cases phase with
  | unread early sofar same =>
      rcases early with sampling | point
      · have elsewhere {point : Point} (late : point.sampling = false) :
            station.control.point ≠ point := by
          rintro rfl
          rw [sampling] at late
          contradiction
        refine .unread (sampling_next sampling)
          ⟨sofar, fun point => absurd point (elsewhere rfl)⟩ ?_
        exact (ofDHT11_updatedAt _ readings _ (elsewhere rfl)
          (elsewhere rfl)).trans same
      · refine .read (by simp [Station.step, Control.next, point]) ?_ ?_
        · by_cases accepted : readings.dht11.Valid
          · exact Or.inl ⟨sofar, fun _ => accepted⟩
          · refine Or.inr ?_
            simpa [Station.step, Data.execute, point] using accepted
        · exact (ofDHT11_updatedAt _ readings _ (by simp [point])
            (by simp [point])).trans same
  | read point outcome same =>
      refine .averaged (by simp [Station.step, Control.next, point]) ?_
      rcases outcome with sofar | erroneous
      · exact Or.inl ⟨sofar, fun reading => by simp [point] at reading⟩
      · refine Or.inr ?_
        simp only [Station.step, Data.execute, point,
          averageUpdateDHT11_of_invalid erroneous]
        exact same
  | averaged point outcome => exact absurd point unended

end DHT11Phase

private theorem dht11_phase (actions : List Action)
    (begins : before.control.point = .switchDS18B20State)
    (within : (machine period).Along
      (fun station _ => station.control.point ≠ .switchESPState) before
      actions) :
    DHT11Phase before ((machine period).exec before actions)
      ((machine period).Along TakesValidDHT11 before actions) := by
  induction actions using List.reverseRecOn with
  | nil =>
      refine .unread (Or.inl ?_) trivial rfl
      rw [Machine.exec_nil, begins]
      rfl
  | append_singleton earlier action induction =>
      rw [Machine.along_concat] at within
      have phase := induction within.1
      rw [Machine.exec_concat, propext Machine.along_concat]
      cases action with
      | timerCallback => exact phase.timerCallback
      | mainStep readings => exact phase.mainStep within.2 readings

theorem dht11_kept (readout : Readout period before actions) :
    (machine period).Along TakesValidDHT11 before actions ∨
      ((machine period).exec before actions).data.averages.ofDHT11 =
        before.data.averages.ofDHT11 := by
  cases dht11_phase actions readout.begins readout.within with
  | unread early sofar same => simp [readout.ends, Point.sampling] at early
  | read point outcome same =>
      rw [readout.ends] at point
      contradiction
  | averaged point outcome => exact outcome

end Readout

end Station

namespace Board

/-- The sensor readout of one cycle, drivers included. -/
structure Readout (wiring : Wiring) (period : UpdatePeriod) (before : Board)
    (inputs : List Input) : Prop where
  begins : before.station.control.point = .switchDS18B20State
  within : (machine wiring period).Along
    (fun board _ => board.station.control.point ≠ .switchESPState) before
    inputs
  ends : ((machine wiring period).exec before
    inputs).station.control.point = .switchESPState

/-- `I2C_error()` is `STATUS_OK` after `BMP280_get_measurement`. -/
def TransferOk (wiring : Wiring) (period : UpdatePeriod) (board : Board) :
    Input → Prop
  | .timerCallback => True
  | .mainStep around => board.station.control.point = .getBMP280 →
      (board.step wiring period (.mainStep around)).i2c.error = .ok

/-- `onewire_reset` in `DS18B20_get_temperature` returns `ONEWIRE_PRESENT`. -/
def ResetPresent (wiring : Wiring) (board : Board) : Input → Prop
  | .timerCallback => True
  | .mainStep around => board.station.control.point = .getTemperature →
      (DS18B20.readScratchpad wiring.onewire (board.facing around)).1 = .present

/-- `DHT11_get_measurement` does not return an error code. -/
def MeasurementOk (wiring : Wiring) (period : UpdatePeriod) (board : Board) :
    Input → Prop
  | .timerCallback => True
  | .mainStep around => board.station.control.point = .getDHT11 →
      ∀ error : DHT11Error,
        (board.step wiring period
          (.mainStep around)).station.data.dht11Meas ≠ error.measurement

/-- A sensor whose transaction failed in the readout has the averages it had
before. -/
structure Uncontaminated (wiring : Wiring) (period : UpdatePeriod)
    (before : Board) (inputs : List Input) : Prop where
  bmp280 : ¬(machine wiring period).Along (TransferOk wiring period) before
      inputs →
    ((machine wiring period).exec before
      inputs).station.data.averages.ofBMP280 =
        before.station.data.averages.ofBMP280
  ds18b20 : ¬(machine wiring period).Along (ResetPresent wiring) before
      inputs →
    ((machine wiring period).exec before
      inputs).station.data.averages.ofDS18B20 =
        before.station.data.averages.ofDS18B20
  dht11 : ¬(machine wiring period).Along (MeasurementOk wiring period) before
      inputs →
    ((machine wiring period).exec before
      inputs).station.data.averages.ofDHT11 =
        before.station.data.averages.ofDHT11

def TransferAnswered (board : Board) : Input → Prop
  | .timerCallback => True
  | .mainStep around =>
      board.station.control.point = .getBMP280 → around.transfer.Succeeds

def ResetAnswered (board : Board) : Input → Prop
  | .timerCallback => True
  | .mainStep around =>
      board.station.control.point = .getTemperature → around.levels 0 = .low

instance (board : Board) :
    (input : Input) → Decidable (board.TransferAnswered input)
  | .timerCallback => isTrue trivial
  | .mainStep _ => inferInstanceAs (Decidable (_ → _))

instance (board : Board) :
    (input : Input) → Decidable (board.ResetAnswered input)
  | .timerCallback => isTrue trivial
  | .mainStep _ => inferInstanceAs (Decidable (_ → _))

variable {wiring : Wiring} {period : UpdatePeriod} {before : Board}
variable {inputs : List Input}

theorem transferOk_iff :
    (machine wiring period).Along (TransferOk wiring period) before inputs ↔
      (machine wiring period).Along TransferAnswered before inputs := by
  apply Machine.along_congr
  intro board input
  cases input with
  | timerCallback => exact Iff.rfl
  | mainStep around =>
      exact forall_congr' fun reading => error_step reading

theorem resetPresent_iff :
    (machine wiring period).Along (ResetPresent wiring) before inputs ↔
      (machine wiring period).Along ResetAnswered before inputs := by
  apply Machine.along_congr
  intro board input
  cases input with
  | timerCallback => exact Iff.rfl
  | mainStep around =>
      exact forall_congr' fun _ =>
        DS18B20.readScratchpad_present_iff wiring.onewire (board.facing around)

namespace Readout

theorem station (readout : Readout wiring period before inputs) :
    Station.Readout period before.station
      (actions wiring period before inputs) where
  begins := readout.begins
  within := (along_actions wiring period
    (fun station _ => station.control.point ≠ .switchESPState) before
    inputs).mpr readout.within
  ends := by
    rw [← station_exec]
    exact readout.ends

theorem bmp280_kept_iff (readout : Readout wiring period before inputs) :
    (¬(machine wiring period).Along (TransferOk wiring period) before inputs →
      ((machine wiring period).exec before
        inputs).station.data.averages.ofBMP280 =
          before.station.data.averages.ofBMP280) ↔
      (machine wiring period).Along TransferAnswered before inputs := by
  have changed := readout.station.bmp280_changed
  rw [← station_exec] at changed
  rw [transferOk_iff]
  constructor
  · intro kept
    by_contra failed
    exact changed (kept failed)
  · intro answered failed
    exact absurd answered failed

theorem ds18b20_kept_iff (readout : Readout wiring period before inputs) :
    (¬(machine wiring period).Along (ResetPresent wiring) before inputs →
      ((machine wiring period).exec before
        inputs).station.data.averages.ofDS18B20 =
          before.station.data.averages.ofDS18B20) ↔
      (machine wiring period).Along ResetAnswered before inputs := by
  rw [resetPresent_iff]
  constructor
  · intro kept
    cases state : before.station.control.ds18b20State with
    | requestConversion =>
        have untaken := readout.station.untaken state
        rw [along_actions] at untaken
        refine untaken.mono fun board input elsewhere => ?_
        cases input with
        | timerCallback => trivial
        | mainStep around => exact fun reading => absurd reading elsewhere
    | getMeasurement =>
        have changed := readout.station.ds18b20_changed state
        rw [← station_exec] at changed
        by_contra failed
        exact changed (kept failed)
  · intro answered failed
    exact absurd answered failed

theorem dht11_kept (readout : Readout wiring period before inputs)
    (failed : ¬(machine wiring period).Along (MeasurementOk wiring period)
      before inputs) :
    ((machine wiring period).exec before
      inputs).station.data.averages.ofDHT11 =
        before.station.data.averages.ofDHT11 := by
  rw [station_exec]
  refine readout.station.dht11_kept.resolve_left fun valid => failed ?_
  rw [along_actions] at valid
  refine valid.mono fun board input accepted => ?_
  cases input with
  | timerCallback => trivial
  | mainStep around =>
      intro reading error erroneous
      rw [dht11Meas_step reading] at erroneous
      have valid := accepted reading
      rw [erroneous] at valid
      exact error.measurement_invalid valid

end Readout

/-- In every run a cycle keeps failed transactions out of the averages exactly
when its BMP280 transfer succeeds and a DS18B20, if it reads one, is there. -/
theorem averages_uncontaminated_iff (wiring : Wiring) (period : UpdatePeriod)
    (initial : Board) (earlier cycle : List Input)
    (readout : Readout wiring period
      ((machine wiring period).exec initial earlier) cycle) :
    Uncontaminated wiring period
        ((machine wiring period).exec initial earlier) cycle ↔
      (machine wiring period).Along TransferAnswered
          ((machine wiring period).exec initial earlier) cycle ∧
        (machine wiring period).Along ResetAnswered
          ((machine wiring period).exec initial earlier) cycle := by
  rw [← readout.bmp280_kept_iff, ← readout.ds18b20_kept_iff]
  exact ⟨fun kept => ⟨kept.bmp280, kept.ds18b20⟩,
    fun kept => ⟨kept.1, kept.2, readout.dht11_kept⟩⟩

def answering : Surroundings where
  levels := fun read => if read = 0 then .low else .high
  transfer := ⟨0, ⟨0, List.replicate 6 0x80, by decide, fun _ => rfl⟩⟩
  stack := Vector.replicate _ 0

def unacknowledged : Surroundings where
  levels := fun _ => .low
  transfer := ⟨-5, ⟨0, List.replicate 6 0x80, by decide, fun _ => rfl⟩⟩
  stack := Vector.replicate _ 0

theorem averages_uncontaminated_iff_second_cycle :
    Uncontaminated .configured .configured
      ((machine .configured .configured).exec zeroed
        (List.replicate 11 (.mainStep answering) ++
          [.timerCallback, .mainStep answering]))
      (List.replicate 8 (.mainStep answering)) :=
  (averages_uncontaminated_iff .configured .configured zeroed
    (List.replicate 11 (.mainStep answering) ++
      [.timerCallback, .mainStep answering])
    (List.replicate 8 (.mainStep answering))
    ⟨by decide, by decide, by decide⟩).mpr ⟨by decide, by decide⟩

theorem averages_contaminated_by_failed_transfer :
    ¬∀ (wiring : Wiring) (initial : Board) (earlier cycle : List Input),
      initial.station.Started →
      Readout wiring .configured
        ((machine wiring .configured).exec initial earlier) cycle →
      Uncontaminated wiring .configured
        ((machine wiring .configured).exec initial earlier) cycle := by
  intro claimed
  have readout : Readout .configured .configured
      ((machine .configured .configured).exec zeroed
        [.mainStep unacknowledged])
      (List.replicate 7 (.mainStep unacknowledged)) :=
    ⟨by decide, by decide, by decide⟩
  have kept := claimed .configured zeroed _ _ Station.zeroed_started readout
  have answered := readout.bmp280_kept_iff.mp kept.bmp280
  exact absurd answered (by decide)

end Board

end QuarkMeteoStation
