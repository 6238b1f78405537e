import QuarkMeteoStation.Average
import QuarkMeteoStation.Library.Mean

namespace QuarkMeteoStation

open Library

/-! What the averages are for: an upload reports exact means over a window of
readings.  The accumulators refine the window, word by word. -/

/-- The readings of one upload window, oldest first. -/
structure Window where
  bmp280 : List BMP280Meas
  ds18b20 : List DS18B20Meas
  dht11 : List DHT11Meas
  deriving DecidableEq, Repr

namespace Window

def empty : Window := ⟨[], [], []⟩

def addBMP280 (window : Window) (meas : BMP280Meas) : Window :=
  { window with bmp280 := window.bmp280 ++ [meas] }

def addDS18B20 (window : Window) (meas : DS18B20Meas) : Window :=
  { window with ds18b20 := window.ds18b20 ++ [meas] }

def addDHT11 (window : Window) (meas : DHT11Meas) : Window :=
  { window with dht11 := window.dht11 ++ [meas] }

def validDHT11 (window : Window) : List DHT11Meas :=
  window.dht11.filter fun meas => decide meas.Valid

end Window

/-- The accumulator holds the sums and the count of the readings, each modulo
the width of its word. -/
structure BMP280Average.Sums (avg : BMP280Average)
    (readings : List BMP280Meas) : Prop where
  presSum : avg.presSum.toNat =
    (readings.map fun meas => meas.pressure.toNat).sum % 2 ^ 32
  tempSum : avg.tempSum.toInt =
    (readings.map fun meas : BMP280Meas => meas.temperature.toInt).sum.bmod
      (2 ^ 32)
  measNum : avg.measNum.toNat = readings.length % 2 ^ 16

structure DS18B20Average.Sums (avg : DS18B20Average)
    (readings : List DS18B20Meas) : Prop where
  tempSum : avg.tempSum.toInt =
    (readings.map DS18B20Meas.hundredths).sum.bmod (2 ^ 32)
  measNum : avg.measNum.toNat = readings.length % 2 ^ 16

structure DHT11Average.Sums (avg : DHT11Average)
    (readings : List DHT11Meas) : Prop where
  tempSum : avg.tempSum.toInt =
    (readings.map fun meas : DHT11Meas =>
      (meas.temperature.toNat : Int)).sum.bmod (2 ^ 32)
  humidSum : avg.humidSum.toNat =
    (readings.map fun meas => meas.humidity.toNat).sum % 2 ^ 32
  measNum : avg.measNum.toNat = readings.length % 2 ^ 16

/-- The averages account for exactly the readings of the window. -/
structure Averages.Accounts (averages : Averages) (window : Window) : Prop where
  bmp280 : averages.bmp280Avg.Sums window.bmp280
  ds18b20 : averages.ds18b20Avg.Sums window.ds18b20
  dht11 : averages.dht11Avg.Sums window.validDHT11
  bmp280Published : window.bmp280 ≠ [] →
    averages.bmp280MeasAvg = averages.bmp280Avg.result
  ds18b20Published : window.ds18b20 ≠ [] →
    averages.ds18b20MeasAvg = averages.ds18b20Avg.result
  dht11Published : window.validDHT11 ≠ [] →
    averages.dht11MeasAvg = averages.dht11Avg.result

theorem BMP280Average.Sums.unique {first second : BMP280Average}
    {readings : List BMP280Meas} (left : first.Sums readings)
    (right : second.Sums readings) : first = second := by
  obtain ⟨tempSum, presSum, measNum⟩ := first
  obtain ⟨otherTempSum, otherPresSum, otherMeasNum⟩ := second
  simp only [mk.injEq, ← Int32.toInt_inj, ← UInt32.toNat_inj,
    ← UInt16.toNat_inj]
  exact ⟨left.tempSum.trans right.tempSum.symm,
    left.presSum.trans right.presSum.symm,
    left.measNum.trans right.measNum.symm⟩

theorem DS18B20Average.Sums.unique {first second : DS18B20Average}
    {readings : List DS18B20Meas} (left : first.Sums readings)
    (right : second.Sums readings) : first = second := by
  obtain ⟨tempSum, measNum⟩ := first
  obtain ⟨otherTempSum, otherMeasNum⟩ := second
  simp only [mk.injEq, ← Int32.toInt_inj, ← UInt16.toNat_inj]
  exact ⟨left.tempSum.trans right.tempSum.symm,
    left.measNum.trans right.measNum.symm⟩

theorem DHT11Average.Sums.unique {first second : DHT11Average}
    {readings : List DHT11Meas} (left : first.Sums readings)
    (right : second.Sums readings) : first = second := by
  obtain ⟨tempSum, humidSum, measNum⟩ := first
  obtain ⟨otherTempSum, otherHumidSum, otherMeasNum⟩ := second
  simp only [mk.injEq, ← Int32.toInt_inj, ← UInt32.toNat_inj,
    ← UInt16.toNat_inj]
  exact ⟨left.tempSum.trans right.tempSum.symm,
    left.humidSum.trans right.humidSum.symm,
    left.measNum.trans right.measNum.symm⟩

theorem Averages.Accounts.published_eq {first second : Averages}
    {window : Window} (left : first.Accounts window)
    (right : second.Accounts window) :
    (window.bmp280 ≠ [] → first.bmp280MeasAvg = second.bmp280MeasAvg) ∧
      (window.ds18b20 ≠ [] → first.ds18b20MeasAvg = second.ds18b20MeasAvg) ∧
      (window.validDHT11 ≠ [] → first.dht11MeasAvg = second.dht11MeasAvg) := by
  refine ⟨?_, ?_, ?_⟩
  · intro nonempty
    rw [left.bmp280Published nonempty, right.bmp280Published nonempty,
      left.bmp280.unique right.bmp280]
  · intro nonempty
    rw [left.ds18b20Published nonempty, right.ds18b20Published nonempty,
      left.ds18b20.unique right.ds18b20]
  · intro nonempty
    rw [left.dht11Published nonempty, right.dht11Published nonempty,
      left.dht11.unique right.dht11]

theorem toInt_ds18b20Temperature (meas : DS18B20Meas) :
    (ds18b20Temperature meas).toInt = meas.hundredths := by
  have integerBound := meas.integer.toNat_lt
  have fractionBound := meas.fraction.toNat_lt
  have magnitude : (Int16.ofInt
      (meas.integer.toNat * 100 + meas.fraction.toNat)).toInt =
        meas.integer.toNat * 100 + meas.fraction.toNat :=
    Int16.toInt_ofInt_of_le (by omega) (by omega)
  unfold ds18b20Temperature DS18B20Meas.hundredths
  cases meas.sign with
  | positive => simpa using magnitude
  | negative =>
      simp only [if_true, magnitude]
      exact Int16.toInt_ofInt_of_le (by omega) (by omega)

theorem averageReset_accounts (averages : Averages) :
    (averageReset averages).Accounts Window.empty where
  bmp280 := ⟨rfl, rfl, rfl⟩
  ds18b20 := ⟨rfl, rfl⟩
  dht11 := ⟨rfl, rfl, rfl⟩
  bmp280Published := fun nonempty => absurd rfl nonempty
  ds18b20Published := fun nonempty => absurd rfl nonempty
  dht11Published := fun nonempty => absurd rfl nonempty

theorem averageUpdateBMP280_accounts {averages : Averages} {window : Window}
    (accounts : averages.Accounts window) (meas : BMP280Meas) :
    (averageUpdateBMP280 meas averages).Accounts (window.addBMP280 meas) where
  bmp280 := by
    obtain ⟨presSum, tempSum, measNum⟩ := accounts.bmp280
    refine ⟨?_, ?_, ?_⟩
    · simp [averageUpdateBMP280, Window.addBMP280, UInt32.toNat_add, presSum]
    · simp [averageUpdateBMP280, Window.addBMP280, Int32.toInt_add, tempSum]
    · simp [averageUpdateBMP280, Window.addBMP280, UInt16.toNat_add, measNum]
  ds18b20 := accounts.ds18b20
  dht11 := accounts.dht11
  bmp280Published := fun _ => rfl
  ds18b20Published := accounts.ds18b20Published
  dht11Published := accounts.dht11Published

theorem averageUpdateDS18B20_accounts {averages : Averages} {window : Window}
    (accounts : averages.Accounts window) (meas : DS18B20Meas) :
    (averageUpdateDS18B20 meas averages).Accounts
      (window.addDS18B20 meas) where
  bmp280 := accounts.bmp280
  ds18b20 := by
    obtain ⟨tempSum, measNum⟩ := accounts.ds18b20
    refine ⟨?_, ?_⟩
    · simp [averageUpdateDS18B20, Window.addDS18B20, Int32.toInt_add, tempSum,
        toInt_ds18b20Temperature]
    · simp [averageUpdateDS18B20, Window.addDS18B20, UInt16.toNat_add, measNum]
  dht11 := accounts.dht11
  bmp280Published := accounts.bmp280Published
  ds18b20Published := fun _ => rfl
  dht11Published := accounts.dht11Published

theorem averageUpdateDHT11_of_invalid {meas : DHT11Meas}
    (invalid : ¬meas.Valid) (averages : Averages) :
    averageUpdateDHT11 meas averages = averages := by
  have erroneous : meas.temperature = DHT11Error.noSensorError.code ∨
      meas.temperature = DHT11Error.checksumError.code := by
    unfold DHT11Meas.Valid at invalid
    rw [Decidable.not_and_iff_or_not, not_not, not_not] at invalid
    exact invalid
  rw [averageUpdateDHT11, if_pos erroneous]

theorem averageUpdateDHT11_accounts {averages : Averages} {window : Window}
    (accounts : averages.Accounts window) (meas : DHT11Meas) :
    (averageUpdateDHT11 meas averages).Accounts (window.addDHT11 meas) := by
  by_cases valid : meas.Valid
  · have accepted : ¬(meas.temperature = DHT11Error.noSensorError.code ∨
        meas.temperature = DHT11Error.checksumError.code) := by
      simpa [DHT11Meas.Valid, not_or] using valid
    have extended : (window.addDHT11 meas).validDHT11 =
        window.validDHT11 ++ [meas] := by
      simp [Window.addDHT11, Window.validDHT11, valid]
    obtain ⟨tempSum, humidSum, measNum⟩ := accounts.dht11
    have temperatureBound := meas.temperature.toNat_lt
    have temperature : (Int32.ofInt meas.temperature.toNat).toInt =
        meas.temperature.toNat :=
      Int32.toInt_ofInt_of_le (by omega) (by omega)
    rw [averageUpdateDHT11, if_neg accepted]
    refine ⟨accounts.bmp280, accounts.ds18b20, ⟨?_, ?_, ?_⟩,
      accounts.bmp280Published, accounts.ds18b20Published, fun _ => rfl⟩
    · rw [extended]
      simp [Int32.toInt_add, tempSum, temperature]
    · rw [extended]
      simp [UInt32.toNat_add, humidSum]
    · rw [extended]
      simp [UInt16.toNat_add, measNum]
  · have unchanged : (window.addDHT11 meas).validDHT11 = window.validDHT11 := by
      simp [Window.addDHT11, Window.validDHT11, valid]
    rw [averageUpdateDHT11_of_invalid valid]
    refine ⟨accounts.bmp280, accounts.ds18b20, ?_, accounts.bmp280Published,
      accounts.ds18b20Published, ?_⟩
    · rw [unchanged]
      exact accounts.dht11
    · rw [unchanged]
      exact accounts.dht11Published

end QuarkMeteoStation
