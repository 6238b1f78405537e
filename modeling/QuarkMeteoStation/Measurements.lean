namespace QuarkMeteoStation

/-! The measurement structs of `BMP280.h`, `DS18B20.h` and `DHT11.h`. -/

theorem toNat_byte_le (byte : UInt8) : byte.toNat ≤ 255 :=
  Nat.le_of_lt_succ byte.toNat_lt

/-- `BMP280_meas_t`: pressure in pascals, temperature in hundredths of a
degree. -/
structure BMP280Meas where
  pressure : UInt32
  temperature : Int32
  deriving DecidableEq, Repr

inductive DS18B20Sign
  | positive
  | negative
  deriving DecidableEq, Repr

/-- `DS18B20_meas_t`: the sign is stored apart from the magnitude, whose
fraction counts hundredths. -/
structure DS18B20Meas where
  sign : DS18B20Sign
  integer : UInt8
  fraction : UInt8
  deriving DecidableEq, Repr

structure DHT11Meas where
  humidity : UInt8
  temperature : UInt8
  deriving DecidableEq, Repr

/-- `DHT11_error_t`: values stored in both fields of a failed readout. -/
inductive DHT11Error
  | noSensorError
  | checksumError
  deriving DecidableEq, Repr

namespace DHT11Error

def code : DHT11Error → UInt8
  | noSensorError => 0xFD
  | checksumError => 0xFE

def measurement (error : DHT11Error) : DHT11Meas where
  humidity := error.code
  temperature := error.code

end DHT11Error

namespace DS18B20Meas

def hundredths (meas : DS18B20Meas) : Int :=
  let magnitude : Int := meas.integer.toNat * 100 + meas.fraction.toNat
  match meas.sign with
  | .positive => magnitude
  | .negative => -magnitude

theorem hundredths_bounds (meas : DS18B20Meas) :
    -25755 ≤ meas.hundredths ∧ meas.hundredths ≤ 25755 := by
  have integerBound := meas.integer.toNat_lt
  have fractionBound := meas.fraction.toNat_lt
  unfold hundredths
  cases meas.sign <;> simp only <;> omega

end DS18B20Meas

namespace DHT11Meas

def Valid (meas : DHT11Meas) : Prop :=
  meas.temperature ≠ DHT11Error.noSensorError.code ∧
    meas.temperature ≠ DHT11Error.checksumError.code

instance (meas : DHT11Meas) : Decidable meas.Valid :=
  inferInstanceAs (Decidable (_ ∧ _))

end DHT11Meas

theorem DHT11Error.measurement_invalid (error : DHT11Error) :
    ¬error.measurement.Valid := by
  cases error with
  | noSensorError => decide
  | checksumError => decide

end QuarkMeteoStation
