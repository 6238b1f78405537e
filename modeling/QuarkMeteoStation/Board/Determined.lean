import QuarkMeteoStation.Board.Agreement

namespace QuarkMeteoStation

open Library

/-! Which of the storage that nothing initialises has been written by the time
it is shown. -/

/-- A valid reading is averaged from the sums alone. -/
theorem humidity_averageUpdateDHT11 {meas : DHT11Meas} (valid : meas.Valid)
    {first second : Averages} (same : first.dht11Avg = second.dht11Avg) :
    (averageUpdateDHT11 meas first).dht11MeasAvg.humidity =
      (averageUpdateDHT11 meas second).dht11MeasAvg.humidity := by
  have accepted : ¬(meas.temperature = DHT11Error.noSensorError.code ∨
      meas.temperature = DHT11Error.checksumError.code) := by
    simpa [DHT11Meas.Valid, not_or] using valid
  rw [averageUpdateDHT11, averageUpdateDHT11, if_neg accepted,
    if_neg accepted, same]

/-- No other statement touches `DHT11_meas_avg`. -/
theorem Data.dht11MeasAvg_execute {point : Point}
    (other : point ≠ .averageUpdateDHT11) (readings : Readings) (data : Data) :
    (data.execute point readings).averages.dht11MeasAvg =
      data.averages.dht11MeasAvg := by
  by_cases resetting : point = .averageReset
  · rw [resetting]
    rfl
  · exact (ofDHT11_updatedAt.comp Prod.snd) point readings data resetting other

namespace Board

variable {wiring : Wiring} {period : UpdatePeriod} {lcd : HD44780.Config}

section Step

variable {boards : Board × Board} {pair : Pair} {levels : Nat → QmGpioState}
variable {transfer : I2C.Transfer BMP280.measDataSize} {garbage : Garbage}

theorem data_mainStep (board : Board) :
    (board.advance wiring period
        (.mainStep levels transfer, garbage)).station.data =
      board.station.data.execute board.station.control.point
        (board.drive wiring ⟨levels, transfer, garbage.buffer⟩).1 := rfl

/-- After a step the outdoor readings are the same if it has read one, or if
they were before. -/
theorem Agree.ds18b20Meas_step (agree : Agree boards)
    (alike : pair.1.1 = pair.2.1) (held : HoldsSame boards pair) :
    let after := (observed wiring period lcd).twice.step boards pair
    after.1.station.data.ds18b20Meas = after.2.station.data.ds18b20Meas ↔
      boards.1.station.data.ds18b20Meas = boards.2.station.data.ds18b20Meas ∨
        ReadsDS18B20 boards.1 pair.1 := by
  obtain ⟨⟨outside, firstGarbage⟩, ⟨_, secondGarbage⟩⟩ := pair
  obtain rfl : outside = _ := alike
  cases outside with
  | timerCallback => exact (or_iff_left id).symm
  | detect transfer => exact (or_iff_left id).symm
  | mainStep levels transfer =>
      have covers : boards.1.station.control.point = .getBMP280 →
          BMP280.Covers transfer firstGarbage.buffer secondGarbage.buffer := by
        intro reading
        simpa only [HoldsSame, reading] using held
      have readings := (@Agree.drive wiring boards levels transfer _ _ agree
        covers).1.ds18b20
      simp only [Machine.twice, observed, ReadsDS18B20]
      rw [data_mainStep, data_mainStep, ← agree.control]
      by_cases reading : boards.1.station.control.point = .getTemperature
      · rw [reading]
        simp only [Data.execute, readings reading, or_true]
      · rw [Data.ds18b20Meas_execute reading, Data.ds18b20Meas_execute reading,
          or_iff_left reading]

theorem Agree.humidity_step (agree : Agree boards)
    (alike : pair.1.1 = pair.2.1) :
    let after := (observed wiring period lcd).twice.step boards pair
    after.1.station.data.averages.dht11MeasAvg.humidity =
        after.2.station.data.averages.dht11MeasAvg.humidity ↔
      boards.1.station.data.averages.dht11MeasAvg.humidity =
          boards.2.station.data.averages.dht11MeasAvg.humidity ∨
        PublishesDHT11 boards.1 pair.1 := by
  obtain ⟨⟨outside, firstGarbage⟩, ⟨_, secondGarbage⟩⟩ := pair
  obtain rfl : outside = _ := alike
  cases outside with
  | timerCallback => exact (or_iff_left id).symm
  | detect transfer => exact (or_iff_left id).symm
  | mainStep levels transfer =>
      simp only [Machine.twice, observed, PublishesDHT11]
      rw [data_mainStep, data_mainStep, ← agree.control]
      by_cases updating :
          boards.1.station.control.point = .averageUpdateDHT11
      · have meas := agree.data.dht11Meas (by rw [updating]; rfl)
        rw [updating, and_iff_right rfl]
        simp only [Data.execute]
        rw [← meas]
        by_cases valid : boards.1.station.data.dht11Meas.Valid
        · simp only [valid, or_true, iff_true]
          exact humidity_averageUpdateDHT11 valid agree.data.dht11Avg
        · rw [averageUpdateDHT11_of_invalid valid,
            averageUpdateDHT11_of_invalid valid, or_iff_left valid]
      · rw [Data.dht11MeasAvg_execute updating,
          Data.dht11MeasAvg_execute updating,
          or_iff_left fun published => updating published.1]

end Step

section Run

variable {first second : Board} {inputs : List Pair}

/-- What two runs hold the same is what has been written by then, and what
their stacks agree on. -/
structure Supplied (wiring : Wiring) (period : UpdatePeriod)
    (lcd : HD44780.Config) (first second : Board) (inputs : List Pair)
    (boards : Board × Board) : Prop where
  agree : Agree boards
  ds18b20Meas :
    boards.1.station.data.ds18b20Meas = boards.2.station.data.ds18b20Meas ↔
      (observed wiring period lcd).Sometime ReadsDS18B20 first
          (inputs.map Prod.fst) ∨
        first.station.data.ds18b20Meas = second.station.data.ds18b20Meas
  humidity :
    boards.1.station.data.averages.dht11MeasAvg.humidity =
        boards.2.station.data.averages.dht11MeasAvg.humidity ↔
      (observed wiring period lcd).Sometime PublishesDHT11 first
          (inputs.map Prod.fst) ∨
        first.station.data.averages.dht11MeasAvg.humidity =
          second.station.data.averages.dht11MeasAvg.humidity

theorem supplied_exec (started : StartedAlike first second)
    (alike : ∀ pair ∈ inputs, pair.1.1 = pair.2.1)
    (held : (observed wiring period lcd).twice.Along HoldsSame (first, second)
      inputs) :
    Supplied wiring period lcd first second inputs
      ((observed wiring period lcd).twice.exec (first, second) inputs) := by
  induction inputs using List.reverseRecOn with
  | nil =>
      exact ⟨started.agree, (or_iff_right id).symm, (or_iff_right id).symm⟩
  | append_singleton earlier pair induction =>
      obtain ⟨before, now⟩ := Machine.along_concat.mp held
      obtain ⟨agree, ds18b20Meas, humidity⟩ := induction (fun other member =>
        alike other (List.mem_append_left _ member)) before
      have same := alike pair (List.mem_append_right _ List.mem_cons_self)
      have left : ((observed wiring period lcd).twice.exec (first, second)
          earlier).1 = (observed wiring period lcd).exec first
            (earlier.map Prod.fst) := by
        rw [Machine.exec_twice]
      rw [Machine.exec_concat]
      refine ⟨agree.advance same now, ?_, ?_⟩
      · refine (agree.ds18b20Meas_step same now).trans ?_
        rw [ds18b20Meas, List.map_append, List.map_cons, List.map_nil,
          Machine.sometime_concat, left]
        exact or_right_comm
      · refine (agree.humidity_step same).trans ?_
        rw [humidity, List.map_append, List.map_cons, List.map_nil,
          Machine.sometime_concat, left]
        exact or_right_comm

theorem Supplied.holdsSame_iff {boards : Board × Board}
    (supplied : Supplied wiring period lcd first second inputs boards)
    (left : boards.1 = (observed wiring period lcd).exec first
      (inputs.map Prod.fst)) (pair : Pair) :
    HoldsSame boards pair ↔
      Determined wiring period lcd first second inputs pair := by
  unfold HoldsSame Determined
  dsimp only
  rw [← left]
  cases pair.1.1 with
  | mainStep levels transfer =>
      cases point : boards.1.station.control.point with
      | sendMeasurements => exact supplied.humidity
      | guiUpdate => exact supplied.ds18b20Meas
      | _ => exact Iff.rfl
  | _ => exact Iff.rfl

/-- The runs hold the same wherever it matters if and only if every step is
determined. -/
theorem along_holdsSame_iff (started : StartedAlike first second)
    (alike : ∀ pair ∈ inputs, pair.1.1 = pair.2.1) :
    (observed wiring period lcd).twice.Along HoldsSame (first, second)
        inputs ↔
      ∀ earlier pair later, inputs = earlier ++ pair :: later →
        Determined wiring period lcd first second earlier pair := by
  have split (earlier : List Pair) :
      ((observed wiring period lcd).twice.exec (first, second) earlier).1 =
        (observed wiring period lcd).exec first (earlier.map Prod.fst) := by
    rw [Machine.exec_twice]
  constructor
  · rintro held earlier pair later rfl
    obtain ⟨before, now, -⟩ := Machine.along_append.mp held
    exact ((supplied_exec started (fun other member =>
      alike other (List.mem_append_left _ member)) before).holdsSame_iff
        (split earlier) pair).mp now
  · intro determined
    induction inputs using List.reverseRecOn with
    | nil => trivial
    | append_singleton earlier pair induction =>
        have front : ∀ other ∈ earlier, other.1.1 = other.2.1 :=
          fun other member => alike other (List.mem_append_left _ member)
        have before := induction front fun more other later same =>
          determined more other (later ++ [pair]) (by rw [same]; simp)
        exact Machine.along_concat.mpr ⟨before,
          ((supplied_exec started front before).holdsSame_iff
            (split earlier) pair).mpr (determined earlier pair [] rfl)⟩

end Run

/-- Two runs that differ in uninitialised storage only show the same as long as
every step is determined; where the measurement reads find the same, nothing
weaker will do. -/
theorem outputs_determined (wiring : Wiring) (period : UpdatePeriod)
    (lcd : HD44780.Config) (first second : Board)
    (started : StartedAlike first second) (inputs : List Pair)
    (alike : ∀ pair ∈ inputs, pair.1.1 = pair.2.1) :
    ((∀ earlier pair later, inputs = earlier ++ pair :: later →
        Determined wiring period lcd first second earlier pair) →
      (observed wiring period lcd).trace first (inputs.map Prod.fst) =
        (observed wiring period lcd).trace second (inputs.map Prod.snd)) ∧
    ((observed wiring period lcd).twice.Along Covered (first, second) inputs →
      (observed wiring period lcd).trace first (inputs.map Prod.fst) =
        (observed wiring period lcd).trace second (inputs.map Prod.snd) →
      ∀ earlier pair later, inputs = earlier ++ pair :: later →
        Determined wiring period lcd first second earlier pair) := by
  have steps := @along_holdsSame_iff wiring period lcd first second inputs
    started alike
  exact ⟨fun determined => started.trace_eq alike (steps.mpr determined),
    fun covered same => steps.mp (started.holdsSame alike covered same)⟩

/-- A station that wakes up with these bytes on its stack. -/
def littered (ds18b20Meas : DS18B20Meas) (bmp280Meas : BMP280Meas) : Board :=
  { zeroed with
    station.data.ds18b20Meas := ds18b20Meas
    station.data.bmp280Meas := bmp280Meas }

theorem littered_startedAlike (ds18b20Meas others : DS18B20Meas)
    (bmp280Meas otherMeas : BMP280Meas) :
    StartedAlike (littered ds18b20Meas bmp280Meas)
      (littered others otherMeas) where
  firstStarted := ⟨rfl, ⟨Averages.cleared, rfl⟩, rfl⟩
  secondStarted := ⟨rfl, ⟨Averages.cleared, rfl⟩, rfl⟩
  port := rfl
  i2c := rfl
  bmp280 := rfl
  dataFrame := rfl

/-- A step whose transfer succeeds, over two stacks. -/
def delivering : Pair :=
  let outside : Outside := .mainStep (fun _ => .high) answering.transfer
  ((outside, ⟨Vector.replicate _ 0, 0⟩),
    (outside, ⟨Vector.replicate _ 0xFF, 0xFF⟩))

theorem alike_delivering (count : Nat) :
    ∀ pair ∈ List.replicate count delivering, pair.1.1 = pair.2.1 := by
  intro pair member
  rw [List.eq_of_mem_replicate member]
  rfl

theorem outputs_determined_first_cycle :
    (observed .configured .configured .configured).trace
        (littered ⟨.positive, 0, 0⟩ ⟨0, 0⟩)
        ((List.replicate 11 delivering).map Prod.fst) =
      (observed .configured .configured .configured).trace
        (littered ⟨.positive, 0, 0⟩ ⟨7, 7⟩)
        ((List.replicate 11 delivering).map Prod.snd) :=
  (outputs_determined .configured .configured .configured _ _
    (littered_startedAlike _ _ _ _) (List.replicate 11 delivering)
    (alike_delivering 11)).1
    ((along_holdsSame_iff (littered_startedAlike _ _ _ _)
      (alike_delivering 11)).mp (by decide))

/-- The first update draws the outdoor reading before there is one. -/
theorem outputs_not_determined_always :
    ¬∀ (first second : Board), StartedAlike first second →
      ∀ inputs : List Pair, (∀ pair ∈ inputs, pair.1.1 = pair.2.1) →
        (observed .configured .configured .configured).trace first
            (inputs.map Prod.fst) =
          (observed .configured .configured .configured).trace second
            (inputs.map Prod.snd) := by
  intro claimed
  have started := littered_startedAlike ⟨.positive, 0, 0⟩ ⟨.negative, 0, 0⟩
    ⟨0, 0⟩ ⟨0, 0⟩
  have alike := alike_delivering 10
  have same := claimed _ _ started _ alike
  have held := started.holdsSame alike (by decide) same
  exact absurd held (by decide)

end Board

end QuarkMeteoStation
