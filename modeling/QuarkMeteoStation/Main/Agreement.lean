import QuarkMeteoStation.ESP.Report
import QuarkMeteoStation.Main.Control
import QuarkMeteoStation.Main.Shares

namespace QuarkMeteoStation

/-! What two runs of the loop agree on at each of its statements when they start
from different bytes in the structs of `main`. -/

namespace Point

/-- `BMP280_meas` has been written in this cycle. -/
def bmp280Written : Point → Bool
  | .averageUpdateBMP280 | .getDHT11 | .averageUpdateDHT11 | .switchESPState
  | .connectToServer | .setAwaitForConnection | .incrementCounter
  | .testCounter | .setSendData | .clearCounter | .sendMeasurements
  | .averageReset | .setIdle | .guiUpdate => true
  | _ => false

/-- So has its average. -/
def bmp280Averaged (point : Point) : Bool :=
  point.bmp280Written && decide (point ≠ .averageUpdateBMP280)

/-- So has `DHT11_meas`. -/
def dht11Written (point : Point) : Bool :=
  point.bmp280Averaged && decide (point ≠ .getDHT11)

end Point

namespace Control

variable {period : UpdatePeriod} {control : Control}

/-- The control states from which the next thing averaged of the DS18B20 comes
before the next upload. -/
def AwaitsDS18B20 (control : Control) : Prop :=
  match control.point with
  | .testUpdateState | .switchDS18B20State =>
      control.espState ≠ .sendData ∧
        (control.espState = .awaitForConnection →
          control.ds18b20State = .getMeasurement)
  | .requestConversion | .setGetMeasurement =>
      control.espState ≠ .sendData ∧ control.espState ≠ .awaitForConnection
  | .getBMP280 | .averageUpdateBMP280 | .getDHT11 | .averageUpdateDHT11
  | .switchESPState =>
      control.ds18b20State = .getMeasurement ∧
        control.espState ≠ .sendData ∧ control.espState ≠ .awaitForConnection
  | .getTemperature | .averageUpdateDS18B20 => True
  | .connectToServer | .setAwaitForConnection =>
      control.ds18b20State = .getMeasurement
  | .guiUpdate | .setUpToDate =>
      control.ds18b20State = .getMeasurement ∧ control.espState ≠ .sendData
  | _ => False

theorem awaitsDS18B20_initial : AwaitsDS18B20 initial := by
  simp [AwaitsDS18B20, initial]

theorem espState_timerCallback (period : UpdatePeriod) (control : Control) :
    (control.timerCallback period).espState = control.espState ∨
      (control.timerCallback period).espState = .connectToServer := by
  simp only [Control.timerCallback]
  split <;> split <;> simp

theorem AwaitsDS18B20.timerCallback (awaits : control.AwaitsDS18B20) :
    (control.timerCallback period).AwaitsDS18B20 := by
  unfold AwaitsDS18B20 at awaits ⊢
  rw [point_timerCallback, ds18b20State_timerCallback]
  rcases espState_timerCallback period control with same | connecting
  · rw [same]
    exact awaits
  · rw [connecting]
    cases point : control.point <;> simp_all

theorem AwaitsDS18B20.next (awaits : control.AwaitsDS18B20)
    (other : control.point ≠ .averageUpdateDS18B20) :
    (control.next period).AwaitsDS18B20 := by
  unfold AwaitsDS18B20 at awaits
  cases point : control.point <;> rw [point] at awaits <;>
    simp only [Control.next, point] <;> (try split) <;>
    simp_all [AwaitsDS18B20]

theorem AwaitsDS18B20.point_ne (awaits : control.AwaitsDS18B20) :
    control.point ≠ .sendMeasurements := by
  intro sending
  simp [AwaitsDS18B20, sending] at awaits

/-- What holds in a cycle once a statement has been passed holds at it or held
before. -/
theorem bmp280Written_next
    (written : (control.next period).point.bmp280Written = true) :
    control.point.bmp280Written = true ∨ control.point = .getBMP280 := by
  have edges : ∀ point : Point, ∀ next ∈ point.successors,
      next.bmp280Written = true →
        point.bmp280Written = true ∨ point = .getBMP280 := by
    intro point
    cases point <;> decide
  exact edges _ _ (next_mem_successors period control) written

theorem bmp280Averaged_next
    (averaged : (control.next period).point.bmp280Averaged = true) :
    control.point.bmp280Averaged = true ∨
      control.point = .averageUpdateBMP280 := by
  have edges : ∀ point : Point, ∀ next ∈ point.successors,
      next.bmp280Averaged = true →
        point.bmp280Averaged = true ∨ point = .averageUpdateBMP280 := by
    intro point
    cases point <;> decide
  exact edges _ _ (next_mem_successors period control) averaged

theorem dht11Written_next
    (written : (control.next period).point.dht11Written = true) :
    control.point.dht11Written = true ∨ control.point = .getDHT11 := by
  have edges : ∀ point : Point, ∀ next ∈ point.successors,
      next.dht11Written = true →
        point.dht11Written = true ∨ point = .getDHT11 := by
    intro point
    cases point <;> decide
  exact edges _ _ (next_mem_successors period control) written

theorem averageUpdateDS18B20_next
    (averaging : (control.next period).point = .averageUpdateDS18B20) :
    control.point = .getTemperature := by
  have edges : ∀ point : Point,
      .averageUpdateDS18B20 ∈ point.successors → point = .getTemperature := by
    intro point
    cases point <;> decide
  apply edges
  rw [← averaging]
  exact next_mem_successors period control

end Control

/-- The humidity is all an upload takes of the DHT11. -/
theorem ESP.sendMeasurements_congr {first second : ESP.Measurements}
    (bmp280Meas : first.bmp280Meas = second.bmp280Meas)
    (ds18b20Meas : first.ds18b20Meas = second.ds18b20Meas)
    (humidity : first.dht11Meas.humidity = second.dht11Meas.humidity)
    (buffers : ESP.Buffers) :
    ESP.sendMeasurements first buffers =
      ESP.sendMeasurements second buffers := by
  have prepared : ESP.prepareJson first buffers =
      ESP.prepareJson second buffers := by
    simp only [ESP.prepareJson, bmp280Meas, ds18b20Meas, humidity]
  simp only [ESP.sendMeasurements, ESP.preparePostRequest, prepared]

/-- The readings agree on what the statement takes from them. -/
structure Readings.Agree (point : Point) (first second : Readings) : Prop where
  bmp280 : point = .getBMP280 → first.bmp280 = second.bmp280
  ds18b20 : point = .getTemperature → first.ds18b20 = second.ds18b20
  dht11 : point = .getDHT11 → first.dht11 = second.dht11

namespace Data

/-- The accumulators and buffers are always the same, the structs from the
statement that writes them to the last that reads them. -/
structure Agree (control : Control) (first second : Data) : Prop where
  buffers : first.buffers = second.buffers
  bmp280Avg : first.averages.bmp280Avg = second.averages.bmp280Avg
  ds18b20Avg : first.averages.ds18b20Avg = second.averages.ds18b20Avg
  dht11Avg : first.averages.dht11Avg = second.averages.dht11Avg
  bmp280Meas : control.point.bmp280Written = true →
    first.bmp280Meas = second.bmp280Meas
  bmp280MeasAvg : control.point.bmp280Averaged = true →
    first.averages.bmp280MeasAvg = second.averages.bmp280MeasAvg
  ds18b20Meas : control.point = .averageUpdateDS18B20 →
    first.ds18b20Meas = second.ds18b20Meas
  ds18b20MeasAvg : ¬control.AwaitsDS18B20 →
    first.averages.ds18b20MeasAvg = second.averages.ds18b20MeasAvg
  dht11Meas : control.point.dht11Written = true →
    first.dht11Meas = second.dht11Meas

variable {period : UpdatePeriod} {control : Control} {first second : Data}
variable {firstReadings secondReadings : Readings}

theorem Agree.sendMeasurements (agree : Agree control first second)
    (sending : control.point = .sendMeasurements)
    (humidity : first.averages.dht11MeasAvg.humidity =
      second.averages.dht11MeasAvg.humidity) :
    ESP.sendMeasurements first.averages.published first.buffers =
      ESP.sendMeasurements second.averages.published second.buffers := by
  have settled : ¬control.AwaitsDS18B20 := fun awaits =>
    awaits.point_ne sending
  rw [agree.buffers]
  exact ESP.sendMeasurements_congr
    (agree.bmp280MeasAvg (by rw [sending]; rfl))
    (agree.ds18b20MeasAvg settled) humidity _

theorem Agree.execute_buffers (agree : Agree control first second)
    (humidity : control.point = .sendMeasurements →
      first.averages.dht11MeasAvg.humidity =
        second.averages.dht11MeasAvg.humidity) :
    (first.execute control.point firstReadings).buffers =
      (second.execute control.point secondReadings).buffers := by
  cases point : control.point with
  | connectToServer =>
      simp only [execute]
      rw [agree.buffers]
  | sendMeasurements =>
      simp only [execute]
      rw [agree.sendMeasurements point (humidity point)]
  | _ => exact agree.buffers

theorem Agree.execute_bmp280Avg (agree : Agree control first second) :
    (first.execute control.point firstReadings).averages.bmp280Avg =
      (second.execute control.point secondReadings).averages.bmp280Avg := by
  by_cases updating : control.point = .averageUpdateBMP280
  · have meas := agree.bmp280Meas (by rw [updating]; rfl)
    simp only [updating, execute, averageUpdateBMP280, agree.bmp280Avg, meas]
  by_cases resetting : control.point = .averageReset
  · rw [resetting]
    rfl
  exact (ofBMP280_updatedAt.comp Prod.fst).agree resetting updating
    agree.bmp280Avg

theorem Agree.execute_bmp280MeasAvg (agree : Agree control first second)
    (averaged : (control.next period).point.bmp280Averaged = true) :
    (first.execute control.point firstReadings).averages.bmp280MeasAvg =
      (second.execute control.point secondReadings).averages.bmp280MeasAvg := by
  by_cases updating : control.point = .averageUpdateBMP280
  · have meas := agree.bmp280Meas (by rw [updating]; rfl)
    simp only [updating, execute, averageUpdateBMP280, agree.bmp280Avg, meas]
  have before := agree.bmp280MeasAvg
    ((Control.bmp280Averaged_next averaged).resolve_right updating)
  by_cases resetting : control.point = .averageReset
  · rw [resetting]
    exact before
  exact (ofBMP280_updatedAt.comp Prod.snd).agree resetting updating before

theorem Agree.execute_ds18b20Avg (agree : Agree control first second) :
    (first.execute control.point firstReadings).averages.ds18b20Avg =
      (second.execute control.point secondReadings).averages.ds18b20Avg := by
  by_cases updating : control.point = .averageUpdateDS18B20
  · have meas := agree.ds18b20Meas updating
    simp only [updating, execute, averageUpdateDS18B20, agree.ds18b20Avg, meas]
  by_cases resetting : control.point = .averageReset
  · rw [resetting]
    rfl
  exact (ofDS18B20_updatedAt.comp Prod.fst).agree resetting updating
    agree.ds18b20Avg

theorem Agree.execute_ds18b20MeasAvg (agree : Agree control first second)
    (settled : ¬(control.next period).AwaitsDS18B20) :
    (first.execute control.point firstReadings).averages.ds18b20MeasAvg =
      (second.execute control.point secondReadings).averages.ds18b20MeasAvg := by
  by_cases updating : control.point = .averageUpdateDS18B20
  · have meas := agree.ds18b20Meas updating
    simp only [updating, execute, averageUpdateDS18B20, agree.ds18b20Avg, meas]
  have before := agree.ds18b20MeasAvg fun awaits =>
    settled (awaits.next updating)
  by_cases resetting : control.point = .averageReset
  · rw [resetting]
    exact before
  exact (ofDS18B20_updatedAt.comp Prod.snd).agree resetting updating before

theorem Agree.execute_dht11Avg (agree : Agree control first second) :
    (first.execute control.point firstReadings).averages.dht11Avg =
      (second.execute control.point secondReadings).averages.dht11Avg := by
  by_cases updating : control.point = .averageUpdateDHT11
  · have meas := agree.dht11Meas (by rw [updating]; rfl)
    simp only [updating, execute, averageUpdateDHT11, meas]
    split
    next => exact agree.dht11Avg
    next => simp only [agree.dht11Avg]
  by_cases resetting : control.point = .averageReset
  · rw [resetting]
    rfl
  exact (ofDHT11_updatedAt.comp Prod.fst).agree resetting updating
    agree.dht11Avg

theorem bmp280Meas_execute {point : Point} (other : point ≠ .getBMP280)
    (readings : Readings) (data : Data) :
    (data.execute point readings).bmp280Meas = data.bmp280Meas := by
  cases point with
  | getBMP280 => exact absurd rfl other
  | _ => simp only [execute]

theorem ds18b20Meas_execute {point : Point} (other : point ≠ .getTemperature)
    (readings : Readings) (data : Data) :
    (data.execute point readings).ds18b20Meas = data.ds18b20Meas := by
  cases point with
  | getTemperature => exact absurd rfl other
  | _ => simp only [execute]

theorem dht11Meas_execute {point : Point} (other : point ≠ .getDHT11)
    (readings : Readings) (data : Data) :
    (data.execute point readings).dht11Meas = data.dht11Meas := by
  cases point with
  | getDHT11 => exact absurd rfl other
  | _ => simp only [execute]

theorem Agree.execute_bmp280Meas (agree : Agree control first second)
    (readings : Readings.Agree control.point firstReadings secondReadings)
    (written : (control.next period).point.bmp280Written = true) :
    (first.execute control.point firstReadings).bmp280Meas =
      (second.execute control.point secondReadings).bmp280Meas := by
  by_cases reading : control.point = .getBMP280
  · have taken := readings.bmp280 reading
    simp only [reading, execute, taken]
  have before := agree.bmp280Meas
    ((Control.bmp280Written_next written).resolve_right reading)
  rw [bmp280Meas_execute reading, bmp280Meas_execute reading]
  exact before

theorem Agree.execute_ds18b20Meas
    (readings : Readings.Agree control.point firstReadings secondReadings)
    (averaging : (control.next period).point = .averageUpdateDS18B20) :
    (first.execute control.point firstReadings).ds18b20Meas =
      (second.execute control.point secondReadings).ds18b20Meas := by
  have reading := Control.averageUpdateDS18B20_next averaging
  have taken := readings.ds18b20 reading
  simp only [reading, execute, taken]

theorem Agree.execute_dht11Meas (agree : Agree control first second)
    (readings : Readings.Agree control.point firstReadings secondReadings)
    (written : (control.next period).point.dht11Written = true) :
    (first.execute control.point firstReadings).dht11Meas =
      (second.execute control.point secondReadings).dht11Meas := by
  by_cases reading : control.point = .getDHT11
  · have taken := readings.dht11 reading
    simp only [reading, execute, taken]
  have before := agree.dht11Meas
    ((Control.dht11Written_next written).resolve_right reading)
  rw [dht11Meas_execute reading, dht11Meas_execute reading]
  exact before

/-- One statement of the loop. -/
theorem Agree.execute (agree : Agree control first second)
    (readings : Readings.Agree control.point firstReadings secondReadings)
    (humidity : control.point = .sendMeasurements →
      first.averages.dht11MeasAvg.humidity =
        second.averages.dht11MeasAvg.humidity) :
    Agree (control.next period) (first.execute control.point firstReadings)
      (second.execute control.point secondReadings) where
  buffers := agree.execute_buffers humidity
  bmp280Avg := agree.execute_bmp280Avg
  ds18b20Avg := agree.execute_ds18b20Avg
  dht11Avg := agree.execute_dht11Avg
  bmp280Meas := agree.execute_bmp280Meas readings
  bmp280MeasAvg := agree.execute_bmp280MeasAvg
  ds18b20Meas := Agree.execute_ds18b20Meas readings
  ds18b20MeasAvg := agree.execute_ds18b20MeasAvg
  dht11Meas := agree.execute_dht11Meas readings

/-- A tick moves only the control. -/
theorem Agree.timerCallback (agree : Agree control first second) :
    Agree (control.timerCallback period) first second where
  buffers := agree.buffers
  bmp280Avg := agree.bmp280Avg
  ds18b20Avg := agree.ds18b20Avg
  dht11Avg := agree.dht11Avg
  bmp280Meas := by
    rw [Control.point_timerCallback]
    exact agree.bmp280Meas
  bmp280MeasAvg := by
    rw [Control.point_timerCallback]
    exact agree.bmp280MeasAvg
  ds18b20Meas := by
    rw [Control.point_timerCallback]
    exact agree.ds18b20Meas
  ds18b20MeasAvg := fun settled => agree.ds18b20MeasAvg fun awaits =>
    settled awaits.timerCallback
  dht11Meas := by
    rw [Control.point_timerCallback]
    exact agree.dht11Meas

end Data

end QuarkMeteoStation
