import QuarkMeteoStation.Average.Window

namespace QuarkMeteoStation

open Library

/-! While a window stays below the wrap-around of its words, the published
averages are exact. -/

namespace BMP280Average

structure Exact (avg : BMP280Average) (readings : List BMP280Meas) : Prop where
  presSum : avg.presSum.toNat =
    (readings.map fun meas => meas.pressure.toNat).sum
  tempSum : avg.tempSum.toInt =
    (readings.map fun meas : BMP280Meas => meas.temperature.toInt).sum
  measNum : avg.measNum.toNat = readings.length

theorem Sums.exact {avg : BMP280Average} {readings : List BMP280Meas}
    (sums : avg.Sums readings) (few : readings.length < 2 ^ 16)
    (pressures : (readings.map fun meas => meas.pressure.toNat).sum < 2 ^ 32)
    (coldest : -2 ^ 31 ≤
      (readings.map fun meas : BMP280Meas => meas.temperature.toInt).sum)
    (warmest : (readings.map fun meas : BMP280Meas =>
      meas.temperature.toInt).sum < 2 ^ 31) : avg.Exact readings where
  presSum := by rw [sums.presSum, Nat.mod_eq_of_lt pressures]
  tempSum := by rw [sums.tempSum, bmod32_eq_self coldest warmest]
  measNum := by rw [sums.measNum, Nat.mod_eq_of_lt few]

theorem Exact.result {avg : BMP280Average} {readings : List BMP280Meas}
    (exact : avg.Exact readings) :
    avg.result.pressure.toNat =
        floorMean (readings.map fun meas => meas.pressure.toNat) ∧
      avg.result.temperature.toInt =
        truncatedMean (readings.map fun meas => meas.temperature.toInt) := by
  refine ⟨?_, ?_⟩
  · simp [BMP280Average.result, floorMean, UInt32.toNat_div, exact.presSum,
      exact.measNum]
  · have upper := avg.tempSum.toInt_lt
    have lower := avg.tempSum.le_toInt
    have highest : avg.tempSum.toInt ≤ 2 ^ 31 - 1 := by omega
    obtain ⟨least, greatest⟩ := tdiv_natCast_bounds avg.measNum.toNat lower
      highest (by decide) (by decide)
    simp only [BMP280Average.result, truncatedMean, List.length_map]
    rw [← exact.tempSum, ← exact.measNum]
    exact Int32.toInt_ofInt_of_le least (by omega)

end BMP280Average

namespace DS18B20Average

structure Exact (avg : DS18B20Average) (readings : List DS18B20Meas) :
    Prop where
  tempSum : avg.tempSum.toInt = (readings.map DS18B20Meas.hundredths).sum
  measNum : avg.measNum.toNat = readings.length

theorem hundredths_sum_bounds (readings : List DS18B20Meas) :
    -(readings.length * 25755 : Int) ≤
        (readings.map DS18B20Meas.hundredths).sum ∧
      (readings.map DS18B20Meas.hundredths).sum ≤ readings.length * 25755 := by
  have bounds := @sum_bounds (readings.map DS18B20Meas.hundredths) 25755
    (by simpa using fun meas _ => meas.hundredths_bounds.1)
    (by simpa using fun meas _ => meas.hundredths_bounds.2)
  simpa using bounds

theorem Sums.exact {avg : DS18B20Average} {readings : List DS18B20Meas}
    (sums : avg.Sums readings) (few : readings.length < 2 ^ 16) :
    avg.Exact readings := by
  obtain ⟨lower, upper⟩ := hundredths_sum_bounds readings
  refine ⟨?_, ?_⟩
  · rw [sums.tempSum, bmod32_eq_self (by omega) (by omega)]
  · rw [sums.measNum, Nat.mod_eq_of_lt few]

theorem Exact.result {avg : DS18B20Average} {readings : List DS18B20Meas}
    (exact : avg.Exact readings) (nonempty : readings ≠ []) :
    let mean := truncatedMean (readings.map DS18B20Meas.hundredths)
    (avg.result.sign = .negative ↔ mean < 0) ∧
      (avg.result.integer.toNat : Int) = mean.tdiv 100 % 256 ∧
      (avg.result.fraction.toNat : Int) = mean.tmod 100 % 256 := by
  intro mean
  have bounds : -25755 ≤ mean ∧ mean ≤ 25755 :=
    truncatedMean_bounds (by simpa using nonempty)
      (by simpa using fun meas _ => meas.hundredths_bounds.1)
      (by simpa using fun meas _ => meas.hundredths_bounds.2)
  have average : (Int16.ofInt
      (avg.tempSum.toInt.tdiv avg.measNum.toNat)).toInt = mean := by
    rw [exact.tempSum, exact.measNum]
    simp only [mean, truncatedMean, List.length_map] at bounds ⊢
    exact Int16.toInt_ofInt_of_le (by omega) (by omega)
  simp only [DS18B20Average.result, average, UInt8.ofInt, UInt8.toNat_ofNat']
  refine ⟨?_, ?_, ?_⟩
  · split
    next nonnegative => simpa using nonnegative
    next negative => simpa using Int.not_le.mp negative
  · omega
  · omega

end DS18B20Average

namespace DHT11Average

structure Exact (avg : DHT11Average) (readings : List DHT11Meas) : Prop where
  tempSum : avg.tempSum.toInt =
    (readings.map fun meas : DHT11Meas => (meas.temperature.toNat : Int)).sum
  humidSum : avg.humidSum.toNat =
    (readings.map fun meas => meas.humidity.toNat).sum
  measNum : avg.measNum.toNat = readings.length

private theorem byte_samples_le (field : DHT11Meas → UInt8)
    (readings : List DHT11Meas) :
    ∀ sample ∈ readings.map (fun meas => (field meas).toNat), sample ≤ 255 := by
  intro sample member
  obtain ⟨meas, -, rfl⟩ := List.mem_map.mp member
  exact toNat_byte_le (field meas)

theorem byte_sum_le (field : DHT11Meas → UInt8) (readings : List DHT11Meas) :
    (readings.map fun meas => (field meas).toNat).sum ≤
      readings.length * 255 := by
  have total := natSum_le (byte_samples_le field readings)
  rwa [List.length_map] at total

theorem temperature_sum_eq (readings : List DHT11Meas) :
    (readings.map fun meas : DHT11Meas =>
      (meas.temperature.toNat : Int)).sum =
        ((readings.map fun meas => meas.temperature.toNat).sum : Nat) := by
  rw [Nat.cast_list_sum, List.map_map]
  rfl

theorem Sums.exact {avg : DHT11Average} {readings : List DHT11Meas}
    (sums : avg.Sums readings) (few : readings.length < 2 ^ 16) :
    avg.Exact readings := by
  have temperatures := byte_sum_le DHT11Meas.temperature readings
  have humidities := byte_sum_le DHT11Meas.humidity readings
  have total := temperature_sum_eq readings
  refine ⟨?_, ?_, ?_⟩
  · rw [sums.tempSum, bmod32_eq_self (by omega) (by omega)]
  · rw [sums.humidSum, Nat.mod_eq_of_lt (by omega)]
  · rw [sums.measNum, Nat.mod_eq_of_lt few]

theorem Exact.result {avg : DHT11Average} {readings : List DHT11Meas}
    (exact : avg.Exact readings) :
    avg.result.humidity.toNat =
        floorMean (readings.map fun meas => meas.humidity.toNat) ∧
      avg.result.temperature.toNat =
        floorMean (readings.map fun meas => meas.temperature.toNat) := by
  have humidityBound :=
    floorMean_le (byte_samples_le DHT11Meas.humidity readings)
  have temperatureBound :=
    floorMean_le (byte_samples_le DHT11Meas.temperature readings)
  have mean := truncatedMean_natCast
    (readings.map fun meas => meas.temperature.toNat)
  refine ⟨?_, ?_⟩
  · simp only [floorMean, List.length_map] at humidityBound ⊢
    simp [DHT11Average.result, UInt32.toNat_div, exact.humidSum, exact.measNum]
    omega
  · simp only [truncatedMean, List.map_map, List.length_map] at mean
    simp only [DHT11Average.result, UInt8.ofInt, UInt8.toNat_ofNat',
      exact.tempSum, exact.measNum]
    have total : (readings.map fun meas : DHT11Meas =>
        (meas.temperature.toNat : Int)).sum.tdiv readings.length =
          floorMean (readings.map fun meas => meas.temperature.toNat) := mean
    rw [total]
    omega

end DHT11Average

end QuarkMeteoStation
