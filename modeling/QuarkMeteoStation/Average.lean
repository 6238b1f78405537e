import QuarkMeteoStation.Measurements

namespace QuarkMeteoStation

/-! `average.c`: running averages of the three sensors. -/

structure BMP280Average where
  tempSum : Int32
  presSum : UInt32
  measNum : UInt16
  deriving DecidableEq, Repr

structure DS18B20Average where
  tempSum : Int32
  measNum : UInt16
  deriving DecidableEq, Repr

structure DHT11Average where
  tempSum : Int32
  humidSum : UInt32
  measNum : UInt16
  deriving DecidableEq, Repr

def BMP280Average.result (bmp280Avg : BMP280Average) : BMP280Meas where
  pressure := bmp280Avg.presSum / bmp280Avg.measNum.toUInt32
  temperature := Int32.ofInt
    (bmp280Avg.tempSum.toInt.tdiv bmp280Avg.measNum.toNat)

/-- The "update result" part of `average_update_DS18B20`: the signed average is
split into a sign and two bytes. -/
def DS18B20Average.result (ds18b20Avg : DS18B20Average) : DS18B20Meas :=
  let averageTemperature : Int16 := Int16.ofInt
    (ds18b20Avg.tempSum.toInt.tdiv ds18b20Avg.measNum.toNat)
  { sign := if 0 ≤ averageTemperature.toInt then .positive else .negative
    integer := UInt8.ofInt (averageTemperature.toInt.tdiv 100)
    fraction := UInt8.ofInt (averageTemperature.toInt.tmod 100) }

def DHT11Average.result (dht11Avg : DHT11Average) : DHT11Meas where
  humidity := (dht11Avg.humidSum / dht11Avg.measNum.toUInt32).toUInt8
  temperature := UInt8.ofInt
    (dht11Avg.tempSum.toInt.tdiv dht11Avg.measNum.toNat)

/-- The static accumulators and the average structs they are published in. -/
structure Averages where
  bmp280Avg : BMP280Average
  ds18b20Avg : DS18B20Average
  dht11Avg : DHT11Average
  bmp280MeasAvg : BMP280Meas
  ds18b20MeasAvg : DS18B20Meas
  dht11MeasAvg : DHT11Meas
  deriving DecidableEq, Repr

def Averages.cleared : Averages where
  bmp280Avg := ⟨0, 0, 0⟩
  ds18b20Avg := ⟨0, 0⟩
  dht11Avg := ⟨0, 0, 0⟩
  bmp280MeasAvg := ⟨0, 0⟩
  ds18b20MeasAvg := ⟨.positive, 0, 0⟩
  dht11MeasAvg := ⟨0, 0⟩

/-- The accumulators are cleared; the published averages are not touched. -/
def averageReset (averages : Averages) : Averages :=
  { averages with
    bmp280Avg := ⟨0, 0, 0⟩
    ds18b20Avg := ⟨0, 0⟩
    dht11Avg := ⟨0, 0, 0⟩ }

def averageUpdateBMP280 (bmp280Meas : BMP280Meas) (averages : Averages) :
    Averages :=
  let bmp280Avg : BMP280Average :=
    { presSum := averages.bmp280Avg.presSum + bmp280Meas.pressure
      tempSum := averages.bmp280Avg.tempSum + bmp280Meas.temperature
      measNum := averages.bmp280Avg.measNum + 1 }
  { averages with bmp280Avg := bmp280Avg, bmp280MeasAvg := bmp280Avg.result }

/-- The reading in hundredths, as the `int16_t` the source computes. -/
def ds18b20Temperature (ds18b20Meas : DS18B20Meas) : Int16 :=
  let temperature : Int16 := Int16.ofInt
    (ds18b20Meas.integer.toNat * 100 + ds18b20Meas.fraction.toNat)
  if ds18b20Meas.sign = .negative then Int16.ofInt (-temperature.toInt)
  else temperature

def averageUpdateDS18B20 (ds18b20Meas : DS18B20Meas) (averages : Averages) :
    Averages :=
  let ds18b20Avg : DS18B20Average :=
    { tempSum := averages.ds18b20Avg.tempSum +
        (ds18b20Temperature ds18b20Meas).toInt32
      measNum := averages.ds18b20Avg.measNum + 1 }
  { averages with
    ds18b20Avg := ds18b20Avg, ds18b20MeasAvg := ds18b20Avg.result }

/-- An erroneous measurement leaves everything as it was. -/
def averageUpdateDHT11 (dht11Meas : DHT11Meas) (averages : Averages) :
    Averages :=
  if dht11Meas.temperature = DHT11Error.noSensorError.code ∨
      dht11Meas.temperature = DHT11Error.checksumError.code then averages
  else
    let dht11Avg : DHT11Average :=
      { tempSum := averages.dht11Avg.tempSum +
          Int32.ofInt dht11Meas.temperature.toNat
        humidSum := averages.dht11Avg.humidSum + dht11Meas.humidity.toUInt32
        measNum := averages.dht11Avg.measNum + 1 }
    { averages with dht11Avg := dht11Avg, dht11MeasAvg := dht11Avg.result }

end QuarkMeteoStation
