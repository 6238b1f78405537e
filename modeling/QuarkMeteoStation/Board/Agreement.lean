import QuarkMeteoStation.Board.Contamination
import QuarkMeteoStation.Board.Storage
import QuarkMeteoStation.GUI.Numerals
import QuarkMeteoStation.Main.Agreement

namespace QuarkMeteoStation

open Library

/-! What two stations that differ in uninitialised storage show. -/

namespace Board

/-- Two boards are at the same statement with the same devices, and agree on
what has been written. -/
structure Agree (boards : Board × Board) : Prop where
  control : boards.1.station.control = boards.2.station.control
  data : Data.Agree boards.1.station.control boards.1.station.data
    boards.2.station.data
  port : boards.1.port = boards.2.port
  i2c : boards.1.i2c = boards.2.i2c
  bmp280 : boards.1.bmp280 = boards.2.bmp280
  dataFrame : boards.1.dataFrame = boards.2.dataFrame

theorem StartedAlike.agree {first second : Board}
    (started : StartedAlike first second) : Agree (first, second) := by
  obtain ⟨firstAverages, firstReset⟩ := started.firstStarted.averages
  obtain ⟨secondAverages, secondReset⟩ := started.secondStarted.averages
  have control := started.firstStarted.control
  refine ⟨control.trans started.secondStarted.control.symm, ?_, started.port,
    started.i2c, started.bmp280, started.dataFrame⟩
  dsimp only
  rw [control]
  refine ⟨started.firstStarted.buffers.trans
    started.secondStarted.buffers.symm, ?_, ?_, ?_, ?_, ?_, ?_, ?_, ?_⟩
  · rw [firstReset, secondReset]
    rfl
  · rw [firstReset, secondReset]
    rfl
  · rw [firstReset, secondReset]
    rfl
  · exact fun written => absurd written (by decide)
  · exact fun averaged => absurd averaged (by decide)
  · exact fun averaging => absurd averaging (by decide)
  · exact fun settled => absurd Control.awaitsDS18B20_initial settled
  · exact fun written => absurd written (by decide)

structure SameDevices (first second : Board) : Prop where
  port : first.port = second.port
  i2c : first.i2c = second.i2c
  bmp280 : first.bmp280 = second.bmp280
  dataFrame : first.dataFrame = second.dataFrame

variable {wiring : Wiring} {period : UpdatePeriod} {lcd : HD44780.Config}
variable {boards : Board × Board} {levels : Nat → QmGpioState}
variable {transfer : I2C.Transfer BMP280.measDataSize}
variable {first second : Vector UInt8 BMP280.measDataSize}

theorem getMeasurement_eq_of_covers
    (covers : BMP280.Covers transfer first second) (state : BMP280.State)
    (i2c : I2C.State) :
    BMP280.getMeasurement transfer first state i2c =
      BMP280.getMeasurement transfer second state i2c := by
  simp only [BMP280.getMeasurement,
    BMP280.readMeasurementRegs_eq_of_covers covers state i2c]

/-- The drivers see the same lines and, where it matters, the same bytes. -/
theorem Agree.drive (agree : Agree boards)
    (covers : boards.1.station.control.point = .getBMP280 →
      BMP280.Covers transfer first second) :
    Readings.Agree boards.1.station.control.point
        (boards.1.drive wiring ⟨levels, transfer, first⟩).1
        (boards.2.drive wiring ⟨levels, transfer, second⟩).1 ∧
      SameDevices (boards.1.drive wiring ⟨levels, transfer, first⟩).2
        (boards.2.drive wiring ⟨levels, transfer, second⟩).2 := by
  have facing : boards.1.facing ⟨levels, transfer, first⟩ =
      boards.2.facing ⟨levels, transfer, second⟩ := by
    rw [facing, facing, agree.port]
  have kept : SameDevices boards.1 boards.2 :=
    ⟨agree.port, agree.i2c, agree.bmp280, agree.dataFrame⟩
  unfold Board.drive
  rw [← agree.control]
  cases point : boards.1.station.control.point with
  | requestConversion =>
      rw [facing]
      exact ⟨⟨nofun, nofun, nofun⟩, rfl, agree.i2c, agree.bmp280,
        agree.dataFrame⟩
  | getTemperature =>
      rw [facing]
      exact ⟨⟨nofun, fun _ => rfl, nofun⟩, rfl, agree.i2c, agree.bmp280,
        agree.dataFrame⟩
  | getBMP280 =>
      rw [getMeasurement_eq_of_covers (covers point), agree.bmp280, agree.i2c]
      exact ⟨⟨fun _ => rfl, nofun, nofun⟩, agree.port, rfl, rfl,
        agree.dataFrame⟩
  | getDHT11 =>
      rw [facing, agree.dataFrame]
      exact ⟨⟨nofun, nofun, fun _ => rfl⟩, rfl, agree.i2c, agree.bmp280, rfl⟩
  | _ => exact ⟨⟨nofun, nofun, nofun⟩, kept⟩

theorem Agree.mainStep (agree : Agree boards)
    (covers : boards.1.station.control.point = .getBMP280 →
      BMP280.Covers transfer first second)
    (humidity : boards.1.station.control.point = .sendMeasurements →
      boards.1.station.data.averages.dht11MeasAvg.humidity =
        boards.2.station.data.averages.dht11MeasAvg.humidity) :
    Agree (boards.1.step wiring period (.mainStep ⟨levels, transfer, first⟩),
      boards.2.step wiring period (.mainStep ⟨levels, transfer, second⟩)) := by
  obtain ⟨readings, devices⟩ :=
    @Agree.drive wiring boards levels transfer first second agree covers
  have executed := @Data.Agree.execute period _ _ _ _ _ agree.data readings
    humidity
  refine ⟨?_, ?_, devices.port, devices.i2c, devices.bmp280,
    devices.dataFrame⟩
  · exact congrArg (Control.next period) agree.control
  · have same := agree.control
    simp only [Board.step, Board.action, Station.step]
    rw [← same]
    exact executed

theorem Agree.advance (agree : Agree boards) {pair : Pair}
    (alike : pair.1.1 = pair.2.1) (held : HoldsSame boards pair) :
    Agree ((observed wiring period lcd).twice.step boards pair) := by
  obtain ⟨⟨outside, firstGarbage⟩, ⟨_, secondGarbage⟩⟩ := pair
  obtain rfl : outside = _ := alike
  cases outside with
  | timerCallback =>
      exact ⟨congrArg (Control.timerCallback period) agree.control,
        agree.data.timerCallback, agree.port, agree.i2c, agree.bmp280,
        agree.dataFrame⟩
  | mainStep levels transfer =>
      apply agree.mainStep
      · intro reading
        simpa only [HoldsSame, reading] using held
      · intro sending
        simpa only [HoldsSame, sending] using held
  | detect transfer =>
      refine ⟨agree.control, agree.data, agree.port, ?_, agree.bmp280,
        agree.dataFrame⟩
      exact (BMP280.detect_snd_eq transfer _ _ _).trans
        (congrArg (fun i2c =>
          (BMP280.detect transfer secondGarbage.byte i2c).2) agree.i2c)

/-- Boards that agree show the same. -/
theorem Agree.emission (agree : Agree boards) {pair : Pair}
    (alike : pair.1.1 = pair.2.1) (held : HoldsSame boards pair) :
    boards.1.emission lcd pair.1 = boards.2.emission lcd pair.2 := by
  obtain ⟨⟨outside, firstGarbage⟩, ⟨_, secondGarbage⟩⟩ := pair
  obtain rfl : outside = _ := alike
  cases outside with
  | timerCallback => rfl
  | mainStep levels transfer =>
      simp only [Board.emission]
      rw [← agree.control]
      cases point : boards.1.station.control.point with
      | connectToServer =>
          dsimp only
          rw [agree.data.buffers]
      | sendMeasurements =>
          simp only [HoldsSame, point] at held
          dsimp only
          rw [agree.data.sendMeasurements point held]
      | guiUpdate =>
          simp only [HoldsSame, point] at held
          have bmp280Meas := agree.data.bmp280Meas (by rw [point]; rfl)
          have dht11Meas := agree.data.dht11Meas (by rw [point]; rfl)
          simp only [shown, held, bmp280Meas, dht11Meas]
      | _ => rfl
  | detect transfer =>
      simp only [Board.emission]
      rw [← agree.i2c,
        (BMP280.detect_fst_eq_iff transfer _ secondGarbage.byte _).mpr
          held]

theorem emission_isSome (agree : Agree boards) {pair : Pair}
    (alike : pair.1.1 = pair.2.1) :
    (boards.1.emission lcd pair.1).isSome =
      (boards.2.emission lcd pair.2).isSome := by
  obtain ⟨⟨outside, firstGarbage⟩, ⟨_, secondGarbage⟩⟩ := pair
  obtain rfl : outside = _ := alike
  cases outside with
  | timerCallback => rfl
  | mainStep levels transfer =>
      simp only [Board.emission]
      rw [← agree.control]
      cases boards.1.station.control.point with
      | connectToServer | sendMeasurements | guiUpdate =>
          simp only [Option.isSome_some]
      | _ => rfl
  | detect transfer => rfl

/-- What two boards that agree show tells whether they hold the same there. -/
theorem Agree.holdsSame (agree : Agree boards) {pair : Pair}
    (alike : pair.1.1 = pair.2.1) (covered : Covered boards pair)
    (same : boards.1.emission lcd pair.1 = boards.2.emission lcd pair.2) :
    HoldsSame boards pair := by
  obtain ⟨⟨outside, firstGarbage⟩, ⟨_, secondGarbage⟩⟩ := pair
  obtain rfl : outside = _ := alike
  cases outside with
  | timerCallback => trivial
  | mainStep levels transfer =>
      simp only [Board.emission] at same
      rw [← agree.control] at same
      simp only [HoldsSame]
      cases point : boards.1.station.control.point with
      | getBMP280 => exact covered point
      | sendMeasurements =>
          rw [point] at same
          simp only [Option.some.injEq, Emission.uart.injEq] at same
          have settled : ¬boards.1.station.control.AwaitsDS18B20 :=
            fun awaits => awaits.point_ne point
          exact (ESP.sendMeasurements_messages_eq_iff
            (agree.data.bmp280MeasAvg (by rw [point]; rfl))
            (agree.data.ds18b20MeasAvg settled) _ _).mp same
      | guiUpdate =>
          rw [point] at same
          simp only [Option.some.injEq, Emission.lcd.injEq] at same
          exact (GUI.update_eq_iff lcd
            (agree.data.bmp280Meas (by rw [point]; rfl))
            (agree.data.dht11Meas (by rw [point]; rfl))).mp same
      | _ => trivial
  | detect transfer =>
      simp only [Board.emission, Option.some.injEq, Emission.detected.injEq]
        at same
      rw [← agree.i2c, BMP280.detect_fst_eq_iff] at same
      exact same

variable {first second : Board} {inputs : List Pair}

theorem StartedAlike.trace_eq (started : StartedAlike first second)
    (alike : ∀ pair ∈ inputs, pair.1.1 = pair.2.1)
    (held : (observed wiring period lcd).twice.Along HoldsSame
      (first, second) inputs) :
    (observed wiring period lcd).trace first (inputs.map Prod.fst) =
      (observed wiring period lcd).trace second (inputs.map Prod.snd) :=
  (observed wiring period lcd).trace_eq_of_related
    (held.and_mem alike)
    (fun _ _ holds agree => agree.advance holds.1 holds.2)
    (fun _ _ holds agree => agree.emission holds.1 holds.2) started.agree

theorem StartedAlike.holdsSame (started : StartedAlike first second)
    (alike : ∀ pair ∈ inputs, pair.1.1 = pair.2.1)
    (covered : (observed wiring period lcd).twice.Along Covered
      (first, second) inputs)
    (same : (observed wiring period lcd).trace first (inputs.map Prod.fst) =
      (observed wiring period lcd).trace second (inputs.map Prod.snd)) :
    (observed wiring period lcd).twice.Along HoldsSame (first, second)
      inputs := by
  have along := (observed wiring period lcd).along_of_trace_eq
    (covered.and_mem alike)
    (fun _ _ holds agree => emission_isSome agree holds.1)
    (fun _ _ holds same agree => agree.advance holds.1
      (agree.holdsSame holds.1 holds.2 same))
    started.agree same
  exact along.mono fun _ _ holds =>
    holds.1.2.holdsSame holds.1.1.1 holds.1.1.2 holds.2

end Board

end QuarkMeteoStation
