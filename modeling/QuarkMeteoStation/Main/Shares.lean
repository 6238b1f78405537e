import QuarkMeteoStation.Main

namespace QuarkMeteoStation

/-! The averages share by share: which statement touches which. -/

namespace Averages

def ofBMP280 (averages : Averages) : BMP280Average × BMP280Meas :=
  (averages.bmp280Avg, averages.bmp280MeasAvg)

def ofDS18B20 (averages : Averages) : DS18B20Average × DS18B20Meas :=
  (averages.ds18b20Avg, averages.ds18b20MeasAvg)

def ofDHT11 (averages : Averages) : DHT11Average × DHT11Meas :=
  (averages.dht11Avg, averages.dht11MeasAvg)

end Averages

/-- Only one statement and `average_reset` touch a share of the averages. -/
def UpdatedAt {Share : Type} (update : Point) (share : Averages → Share) :
    Prop :=
  ∀ point readings (data : Data), point ≠ .averageReset → point ≠ update →
    share (data.execute point readings).averages = share data.averages

namespace UpdatedAt

variable {Share Part : Type} {update point : Point} {share : Averages → Share}

theorem comp (updatedAt : UpdatedAt update share) (part : Share → Part) :
    UpdatedAt update (part ∘ share) := by
  intro point readings data kept other
  exact congrArg part (updatedAt point readings data kept other)

/-- Any other statement leaves two runs agreeing on the share. -/
theorem agree (updatedAt : UpdatedAt update share)
    (kept : point ≠ .averageReset) (other : point ≠ update)
    {first second : Data} {firstReadings secondReadings : Readings}
    (same : share first.averages = share second.averages) :
    share (first.execute point firstReadings).averages =
      share (second.execute point secondReadings).averages := by
  rw [updatedAt point firstReadings first kept other,
    updatedAt point secondReadings second kept other]
  exact same

end UpdatedAt

theorem ofBMP280_updatedAt :
    UpdatedAt .averageUpdateBMP280 Averages.ofBMP280 := by
  intro point readings data kept other
  cases point with
  | averageReset => exact absurd rfl kept
  | averageUpdateBMP280 => exact absurd rfl other
  | averageUpdateDHT11 =>
      simp only [Data.execute, averageUpdateDHT11]
      split <;> rfl
  | _ => simp only [Data.execute, averageUpdateDS18B20, Averages.ofBMP280]

theorem ofDS18B20_updatedAt :
    UpdatedAt .averageUpdateDS18B20 Averages.ofDS18B20 := by
  intro point readings data kept other
  cases point with
  | averageReset => exact absurd rfl kept
  | averageUpdateDS18B20 => exact absurd rfl other
  | averageUpdateDHT11 =>
      simp only [Data.execute, averageUpdateDHT11]
      split <;> rfl
  | _ => simp only [Data.execute, averageUpdateBMP280, Averages.ofDS18B20]

theorem ofDHT11_updatedAt :
    UpdatedAt .averageUpdateDHT11 Averages.ofDHT11 := by
  intro point readings data kept other
  cases point with
  | averageReset => exact absurd rfl kept
  | averageUpdateDHT11 => exact absurd rfl other
  | _ => simp only [Data.execute, averageUpdateBMP280, averageUpdateDS18B20,
      Averages.ofDHT11]

end QuarkMeteoStation
