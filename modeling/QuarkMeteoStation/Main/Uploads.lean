import QuarkMeteoStation.Average.Exact
import QuarkMeteoStation.Main.Pace
import QuarkMeteoStation.Main.Schedule

namespace QuarkMeteoStation

open Library

/-! What every upload reports, and why no accumulator ever wraps. -/

def BMP280Meas.Within (pressure temperature : Nat) (meas : BMP280Meas) : Prop :=
  meas.pressure.toNat ≤ pressure ∧
    meas.temperature.toInt.natAbs ≤ temperature

def Action.Within (pressure temperature : Nat) : Action → Prop :=
  Action.Offers fun readings => readings.bmp280.Within pressure temperature

variable (period : UpdatePeriod) {initial : Station}

theorem bmp280_sums_le {pressure temperature : Nat}
    {readings : List BMP280Meas}
    (within : ∀ meas ∈ readings, meas.Within pressure temperature) :
    (readings.map fun meas => meas.pressure.toNat).sum ≤
        readings.length * pressure ∧
      -(readings.length * temperature : Int) ≤
        (readings.map fun meas : BMP280Meas => meas.temperature.toInt).sum ∧
      (readings.map fun meas : BMP280Meas => meas.temperature.toInt).sum ≤
        readings.length * temperature := by
  have pressures : ∀ sample ∈ readings.map fun meas => meas.pressure.toNat,
      sample ≤ pressure := by
    intro sample member
    obtain ⟨meas, measIn, rfl⟩ := List.mem_map.mp member
    exact (within meas measIn).1
  have temperatures :
      ∀ sample ∈ readings.map fun meas : BMP280Meas => meas.temperature.toInt,
        -(temperature : Int) ≤ sample ∧ sample ≤ temperature := by
    intro sample member
    obtain ⟨meas, measIn, rfl⟩ := List.mem_map.mp member
    have bound := (within meas measIn).2
    omega
  have total := natSum_le pressures
  obtain ⟨lower, upper⟩ := sum_bounds
    (fun sample member => (temperatures sample member).1)
    (fun sample member => (temperatures sample member).2)
  rw [List.length_map] at total lower upper
  exact ⟨total, lower, upper⟩

def currentWindow (history : List Event) : Window :=
  (ledger history).window

theorem currentWindow_within {pressure temperature : Nat}
    (actions : List Action)
    (within : ∀ action ∈ actions, action.Within pressure temperature) :
    ∀ meas ∈ (currentWindow
        ((Station.machine period).trace initial actions)).bmp280,
      meas.Within pressure temperature := by
  intro meas member
  obtain ⟨readings, bounded, rfl⟩ :=
    (offered_exec period _ initial actions within).1.bmp280 meas member
  exact bounded

theorem currentWindow_eq (started : initial.Started) (actions : List Action)
    (unsent : ((Station.machine period).exec initial
      actions).control.point.afterUpload = false)
    (kept : ((Station.machine period).exec initial actions).control.point ≠
      .averageReset) :
    currentWindow ((Station.machine period).trace initial actions) =
      ((Station.machine period).exec initial actions).pending
        (accounted ((Station.machine period).trace initial actions)) := by
  have fed := (books_exec period started actions).fed
  cases sent : (ledger ((Station.machine period).trace initial actions)).sent with
  | false => exact (fed.window sent).2
  | true =>
      rcases fed.uploaded sent with ⟨reset, -⟩ | ⟨after, -⟩
      · exact absurd reset kept
      · rw [unsent] at after
        contradiction

/-- The published averages are the means of a window. -/
structure Averages.Report (averages : Averages) (window : Window) : Prop where
  pressure : averages.bmp280MeasAvg.pressure.toNat =
    floorMean (window.bmp280.map fun meas => meas.pressure.toNat)
  temperature : averages.bmp280MeasAvg.temperature.toInt =
    truncatedMean (window.bmp280.map fun meas => meas.temperature.toInt)
  outdoorSum : averages.ds18b20Avg.tempSum.toInt =
    (window.ds18b20.map DS18B20Meas.hundredths).sum
  outdoorNum : averages.ds18b20Avg.measNum.toNat = window.ds18b20.length
  humidity : window.validDHT11 ≠ [] → averages.dht11MeasAvg.humidity.toNat =
    floorMean (window.validDHT11.map fun meas => meas.humidity.toNat)
  dht11Temperature : window.validDHT11 ≠ [] →
    averages.dht11MeasAvg.temperature.toNat =
      floorMean (window.validDHT11.map fun meas => meas.temperature.toNat)

theorem validDHT11_length_le (window : Window) :
    window.validDHT11.length ≤ window.dht11.length :=
  List.length_filter_le _ _

theorem Averages.Accounts.report {averages : Averages} {window : Window}
    (accounts : averages.Accounts window) (nonempty : window.bmp280 ≠ [])
    (bmp280 : window.bmp280.length < 2 ^ 16)
    (ds18b20 : window.ds18b20.length < 2 ^ 16)
    (dht11 : window.dht11.length < 2 ^ 16)
    (pressures :
      (window.bmp280.map fun meas => meas.pressure.toNat).sum < 2 ^ 32)
    (temperatures : -2 ^ 31 ≤
        (window.bmp280.map fun meas : BMP280Meas => meas.temperature.toInt).sum ∧
      (window.bmp280.map fun meas : BMP280Meas =>
        meas.temperature.toInt).sum < 2 ^ 31) :
    averages.Report window := by
  have bmpExact := accounts.bmp280.exact bmp280 pressures temperatures.1
    temperatures.2
  have dsExact := accounts.ds18b20.exact ds18b20
  have dhtExact := accounts.dht11.exact
    (Nat.lt_of_le_of_lt (validDHT11_length_le window) dht11)
  refine ⟨?_, ?_, dsExact.tempSum, dsExact.measNum, ?_, ?_⟩
  · rw [accounts.bmp280Published nonempty]
    exact bmpExact.result.1
  · rw [accounts.bmp280Published nonempty]
    exact bmpExact.result.2
  · intro valid
    rw [accounts.dht11Published valid]
    exact dhtExact.result.1
  · intro valid
    rw [accounts.dht11Published valid]
    exact dhtExact.result.2

/-- Every upload reports the exact means of its own window, and every reading
is in the window of exactly one upload. -/
theorem upload_reports_window (initial : Station) (started : initial.Started)
    (actions : List Action)
    (within : ∀ action ∈ actions, action.Within 1000000 500000)
    (sending : ((Station.machine .configured).exec initial
      actions).control.point = .sendMeasurements) :
    let history := (Station.machine .configured).trace initial actions
    ((Station.machine .configured).exec initial
        actions).data.averages.Report (currentWindow history) ∧
      (currentWindow history).bmp280 ≠ [] ∧
      (ledger history).uploaded.append (currentWindow history) =
        readings history := by
  intro history
  have consistent := Station.consistent_exec .configured started actions
  have pace := pace_exec .configured started actions
  have accounts := (books_exec .configured started actions).accounts
  have contents : ∀ meas ∈ (currentWindow history).bmp280,
      meas.Within 1000000 500000 :=
    currentWindow_within .configured actions within
  have window : currentWindow history = accounted history := by
    rw [currentWindow_eq .configured started actions (by rw [sending]; rfl)
      (by rw [sending]; decide), Station.pending, sending]
  have periodEq : UpdatePeriod.configured.serverUpdatePeriod = 3600 := rfl
  have served := pace.served (by rw [sending]; decide)
  obtain ⟨bmpLength, dhtLength, dsLength⟩ := pace.lengths consistent
  rw [sending] at served
  rw [← window] at accounts served bmpLength dhtLength dsLength
  obtain ⟨pressures, coldest, warmest⟩ := bmp280_sums_le contents
  have nonempty : (currentWindow history).bmp280 ≠ [] := by
    intro empty
    simp [empty, Point.measured] at served
  refine ⟨?_, nonempty, ledger_partition history⟩
  exact accounts.report nonempty (by omega) (by omega) (by omega) (by omega)
    ⟨by omega, by omega⟩

theorem upload_reports_window_first_hour :
    ∃ actions,
      ((Station.machine .configured).exec Station.zeroed
          actions).control.point = .sendMeasurements ∧
        ((Station.machine .configured).exec Station.zeroed
          actions).data.averages.Report (currentWindow
            ((Station.machine .configured).trace Station.zeroed actions)) := by
  let readings : Readings := ⟨⟨100000, 2150⟩, ⟨.negative, 3, 50⟩, ⟨40, 21⟩⟩
  obtain ⟨steps, -, sending⟩ := exists_send .configured Station.zeroed_started
    (List.ne_nil_of_length_pos (l := List.replicate 3600 readings)
      (by rw [List.length_replicate]; decide))
    (by rw [List.length_replicate]; exact Nat.dvd_refl 3600) readings
  refine ⟨_, sending, (upload_reports_window Station.zeroed
    Station.zeroed_started _ ?_ sending).1⟩
  intro action member
  have step : action = .timerCallback ∨ action = .mainStep readings := by
    rcases List.mem_append.mp member with paced | last
    · rcases mem_pacedRun paced with tick | ⟨taken, same, step⟩
      · exact Or.inl tick
      · rw [step, List.eq_of_mem_replicate same]
        exact Or.inr rfl
    · exact Or.inr (List.eq_of_mem_replicate last)
  rcases step with rfl | rfl
  · exact trivial
  · exact ⟨by decide, by decide⟩

/-- Every count and the divisor it makes at the next update stay clear of the
width of the counter. -/
structure Averages.Countable (averages : Averages) : Prop where
  bmp280 : averages.bmp280Avg.measNum.toNat ≤ 3601
  dht11 : averages.dht11Avg.measNum.toNat ≤ 3601
  ds18b20 : averages.ds18b20Avg.measNum.toNat ≤ 1801
  bmp280Divisor : (averages.bmp280Avg.measNum + 1).toNat =
    averages.bmp280Avg.measNum.toNat + 1
  dht11Divisor : (averages.dht11Avg.measNum + 1).toNat =
    averages.dht11Avg.measNum.toNat + 1
  ds18b20Divisor : (averages.ds18b20Avg.measNum + 1).toNat =
    averages.ds18b20Avg.measNum.toNat + 1

def FitsInt32 (value : Int) : Prop :=
  -2 ^ 31 ≤ value ∧ value < 2 ^ 31

/-- The additions of an update about to run stay within their words. -/
structure Station.SumsFit (station : Station) : Prop where
  bmp280 : station.control.point = .averageUpdateBMP280 →
    station.data.averages.bmp280Avg.presSum.toNat +
        station.data.bmp280Meas.pressure.toNat < 2 ^ 32 ∧
      FitsInt32 (station.data.averages.bmp280Avg.tempSum.toInt +
        station.data.bmp280Meas.temperature.toInt)
  ds18b20 : station.control.point = .averageUpdateDS18B20 →
    FitsInt32 (station.data.averages.ds18b20Avg.tempSum.toInt +
      station.data.ds18b20Meas.hundredths)
  dht11 : station.control.point = .averageUpdateDHT11 →
    station.data.averages.dht11Avg.humidSum.toNat +
        station.data.dht11Meas.humidity.toNat < 2 ^ 32 ∧
      FitsInt32 (station.data.averages.dht11Avg.tempSum.toInt +
        station.data.dht11Meas.temperature.toNat)

theorem Averages.Accounts.countable {averages : Averages} {window : Window}
    (accounts : averages.Accounts window)
    (bmp280 : window.bmp280.length ≤ 3601)
    (dht11 : window.dht11.length ≤ 3601)
    (ds18b20 : window.ds18b20.length ≤ 1801) : averages.Countable := by
  have valid := validDHT11_length_le window
  have bmpNum := accounts.bmp280.measNum
  have dhtNum := accounts.dht11.measNum
  have dsNum := accounts.ds18b20.measNum
  refine ⟨by omega, by omega, by omega, ?_, ?_, ?_⟩ <;>
    rw [UInt16.toNat_add, UInt16.toNat_one] <;> omega

theorem Averages.Accounts.byte_sums_fit {averages : Averages} {window : Window}
    (accounts : averages.Accounts window)
    (dht11 : window.dht11.length ≤ 3601)
    (ds18b20 : window.ds18b20.length ≤ 1801)
    (ds18b20Meas : DS18B20Meas) (dht11Meas : DHT11Meas) :
    FitsInt32 (averages.ds18b20Avg.tempSum.toInt + ds18b20Meas.hundredths) ∧
      averages.dht11Avg.humidSum.toNat + dht11Meas.humidity.toNat < 2 ^ 32 ∧
      FitsInt32 (averages.dht11Avg.tempSum.toInt +
        dht11Meas.temperature.toNat) := by
  have valid := validDHT11_length_le window
  have dsExact := accounts.ds18b20.exact (by omega)
  have dhtExact := accounts.dht11.exact (by omega)
  obtain ⟨lower, upper⟩ :=
    DS18B20Average.hundredths_sum_bounds window.ds18b20
  have outdoor := ds18b20Meas.hundredths_bounds
  have temperatures :=
    DHT11Average.byte_sum_le DHT11Meas.temperature window.validDHT11
  have humidities :=
    DHT11Average.byte_sum_le DHT11Meas.humidity window.validDHT11
  have humidity := toNat_byte_le dht11Meas.humidity
  have temperature := toNat_byte_le dht11Meas.temperature
  rw [dsExact.tempSum, dhtExact.humidSum, dhtExact.tempSum,
    DHT11Average.temperature_sum_eq]
  unfold FitsInt32
  omega

theorem bmp280_sums_fit (started : initial.Started) (actions : List Action)
    (within : ∀ action ∈ actions, action.Within 1190000 590000)
    (updating : ((Station.machine .configured).exec initial
      actions).control.point = .averageUpdateBMP280) :
    let station := (Station.machine .configured).exec initial actions
    station.data.averages.bmp280Avg.presSum.toNat +
        station.data.bmp280Meas.pressure.toNat < 2 ^ 32 ∧
      FitsInt32 (station.data.averages.bmp280Avg.tempSum.toInt +
        station.data.bmp280Meas.temperature.toInt) := by
  intro station
  let history := (Station.machine .configured).trace initial actions
  have consistent := Station.consistent_exec .configured started actions
  have accounts : station.data.averages.Accounts (accounted history) :=
    (books_exec .configured started actions).accounts
  obtain ⟨bmpLength, -, -⟩ :=
    (pace_exec .configured started actions).lengths consistent
  rw [updating] at bmpLength
  have periodEq : UpdatePeriod.configured.serverUpdatePeriod = 3600 := rfl
  have room : (accounted history).bmp280.length + 1 ≤ 3601 := bmpLength
  have window : (currentWindow history).bmp280 =
      (accounted history).bmp280 ++ [station.data.bmp280Meas] := by
    rw [currentWindow_eq .configured started actions (by rw [updating]; rfl)
      (by rw [updating]; decide), Station.pending, updating]
    rfl
  have contents : ∀ meas ∈ (currentWindow history).bmp280,
      meas.Within 1190000 590000 :=
    currentWindow_within .configured actions within
  rw [window] at contents
  obtain ⟨pressures, coldest, warmest⟩ := bmp280_sums_le contents
  obtain ⟨earlier, low, high⟩ := bmp280_sums_le
    (fun meas member => contents meas (List.mem_append_left _ member))
  simp only [List.map_append, List.sum_append, List.length_append,
    List.map_cons, List.map_nil, List.sum_cons, List.sum_nil, List.length_cons,
    List.length_nil] at pressures coldest warmest
  have exact := accounts.bmp280.exact (by omega) (by omega) (by omega)
    (by omega)
  rw [exact.presSum, exact.tempSum]
  unfold FitsInt32
  omega

/-- No average ever divides by zero or wraps. -/
theorem averages_never_wrap (initial : Station) (started : initial.Started)
    (actions : List Action) :
    let station := (Station.machine .configured).exec initial actions
    station.data.averages.Countable ∧
      ((∀ action ∈ actions, action.Within 1190000 590000) →
        station.SumsFit) := by
  intro station
  have consistent := Station.consistent_exec .configured started actions
  have accounts := (books_exec .configured started actions).accounts
  obtain ⟨bmpLength, dhtLength, dsLength⟩ :=
    (pace_exec .configured started actions).lengths consistent
  have periodEq : UpdatePeriod.configured.serverUpdatePeriod = 3600 := rfl
  refine ⟨accounts.countable (by omega) (by omega) (by omega), ?_⟩
  intro within
  obtain ⟨outdoor, humidity, temperature⟩ := accounts.byte_sums_fit (by omega)
    (by omega) station.data.ds18b20Meas station.data.dht11Meas
  exact ⟨bmp280_sums_fit started actions within, fun _ => outdoor,
    fun _ => ⟨humidity, temperature⟩⟩

/-- The first sample goes into the sums, at the ends of the sensor's range. -/
theorem averages_never_wrap_first_cycle :
    ((Station.machine .configured).exec Station.zeroed
        (List.replicate 5 (.mainStep
          ⟨⟨1190000, -590000⟩, ⟨.negative, 10, 25⟩,
            ⟨40, 21⟩⟩))).control.point = .averageUpdateBMP280 ∧
      ((Station.machine .configured).exec Station.zeroed
        (List.replicate 5 (.mainStep
          ⟨⟨1190000, -590000⟩, ⟨.negative, 10, 25⟩, ⟨40, 21⟩⟩))).SumsFit :=
  ⟨by decide, (averages_never_wrap Station.zeroed Station.zeroed_started
    (List.replicate 5 (.mainStep
      ⟨⟨1190000, -590000⟩, ⟨.negative, 10, 25⟩, ⟨40, 21⟩⟩))).2 (by
        intro action member
        rw [List.eq_of_mem_replicate member]
        exact ⟨by decide, by decide⟩)⟩

end QuarkMeteoStation
