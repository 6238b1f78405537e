import QuarkMeteoStation.ESP.Payload

namespace QuarkMeteoStation.ESP

open Library
open Library.Decimal

/-! The upload as its receiver reads it: a flat JSON object whose four fields
are signed decimal integers. -/

structure Report where
  Ti : Int
  P : Int
  To : Int
  RH : Int
  deriving DecidableEq, Repr

def integerField? (members : List FlatJson.Member) (name : String) :
    Option Int :=
  (members.lookup (ascii name)).bind parseInt?

def readReport (text : List UInt8) : Option Report := do
  let members ← FlatJson.parseObject? text
  let Ti ← integerField? members "Ti"
  let P ← integerField? members "P"
  let To ← integerField? members "To"
  let RH ← integerField? members "RH"
  some ⟨Ti, P, To, RH⟩

def reportOf (meas : Measurements) : Report where
  Ti := meas.bmp280Meas.temperature.toInt
  P := meas.bmp280Meas.pressure.toNat
  To := meas.ds18b20Meas.hundredths
  RH := meas.dht11Meas.humidity.toNat

theorem parseInt?_outdoorNumeral (meas : DS18B20Meas) :
    parseInt? (outdoorNumeral meas) = some meas.hundredths := by
  have dash : ascii "-" = [45] := by decide
  unfold outdoorNumeral DS18B20Meas.hundredths
  cases meas.sign with
  | positive =>
      simp only [reduceCtorEq, if_false, List.nil_append, parseInt?_numeral]
      simp [magnitude]
  | negative =>
      simp only [if_true, dash, List.singleton_append,
        parseInt?_minus_numeral]
      simp [magnitude]

theorem toNat_unsignedTemperature (meas : BMP280Meas) :
    ((unsignedTemperature meas).toNat : Int) =
      meas.temperature.toInt % 2 ^ 32 := by
  have nonnegative := Int.emod_nonneg meas.temperature.toInt
    (show (2 : Int) ^ 32 ≠ 0 by decide)
  have bound := Int.emod_lt_of_pos meas.temperature.toInt
    (show (0 : Int) < 2 ^ 32 by decide)
  simp only [unsignedTemperature, UInt32.ofInt, UInt32.toNat_ofNat']
  omega

/-- Every assembled text is read back with the indoor temperature taken modulo
`2 ^ 32`. -/
theorem readReport_jsonText (meas : Measurements) :
    readReport (jsonText meas) =
      some { reportOf meas with
        Ti := meas.bmp280Meas.temperature.toInt % 2 ^ 32 } := by
  have fields :
      integerField? (payload meas) "Ti" =
          some ((unsignedTemperature meas.bmp280Meas).toNat : Int) ∧
        integerField? (payload meas) "P" =
          some (meas.bmp280Meas.pressure.toNat : Int) ∧
        integerField? (payload meas) "To" =
          some meas.ds18b20Meas.hundredths ∧
        integerField? (payload meas) "RH" =
          some (meas.dht11Meas.humidity.toNat : Int) := by
    simp [integerField?, payload, ascii, List.lookup_cons, parseInt?_numeral,
      parseInt?_outdoorNumeral]
  obtain ⟨indoor, pressure, outdoor, humidity⟩ := fields
  rw [toNat_unsignedTemperature] at indoor
  simp [readReport, parseObject?_jsonText, indoor, pressure, outdoor, humidity,
    reportOf]

def preparedJson (meas : Measurements) (buffers : Buffers) : List UInt8 :=
  (prepareJson meas buffers).tempBuffer.cstring

theorem preparedJson_eq (meas : Measurements) (buffers : Buffers) :
    preparedJson meas buffers = jsonText meas :=
  (prepareJson_built meas buffers).built.holds.cstring_eq

/-- The payload reports exactly the averages when the indoor temperature is not
negative, and misreports it otherwise; it never merges two different
contents. -/
theorem preparedJson_faithful_iff (meas : Measurements) (buffers : Buffers) :
    (readReport (preparedJson meas buffers) = some (reportOf meas) ↔
        0 ≤ meas.bmp280Meas.temperature.toInt) ∧
      ∀ (other : Measurements) (others : Buffers),
        readReport (preparedJson meas buffers) =
            readReport (preparedJson other others) →
          reportOf meas = reportOf other := by
  have upper := meas.bmp280Meas.temperature.toInt_lt
  have lower := meas.bmp280Meas.temperature.le_toInt
  refine ⟨?_, ?_⟩
  · rw [preparedJson_eq, readReport_jsonText]
    simp only [Option.some.injEq, reportOf, Report.mk.injEq, and_true]
    omega
  · intro other others same
    have otherUpper := other.bmp280Meas.temperature.toInt_lt
    have otherLower := other.bmp280Meas.temperature.le_toInt
    simp only [preparedJson_eq, readReport_jsonText, Option.some.injEq,
      reportOf, Report.mk.injEq] at same ⊢
    refine ⟨by omega, same.2⟩

theorem preparedJson_unfaithful_below_zero :
    ¬ ∀ (meas : Measurements) (buffers : Buffers),
        meas.ds18b20Meas.fraction.toNat < 100 →
          readReport (preparedJson meas buffers) = some (reportOf meas) := by
  intro faithful
  have claimed := faithful frostyMeasurements Buffers.initial (by decide)
  rw [preparedJson_eq, readReport_jsonText] at claimed
  exact absurd claimed (by decide)

theorem postText_injective : Function.Injective postText := by
  intro first second same
  have lengths := congrArg List.length same
  rw [length_postText, length_postText] at lengths
  have equal : first.length = second.length := by
    rcases Nat.le_total first.length second.length with le | le
    · have mono := length_numeral_mono le
      omega
    · have mono := length_numeral_mono le
      omega
  simp only [postText, equal, List.append_left_inj, List.append_right_inj]
    at same
  exact same

theorem sendMeasurements_messages_eq_iff {first second : Measurements}
    (bmp280Meas : first.bmp280Meas = second.bmp280Meas)
    (ds18b20Meas : first.ds18b20Meas = second.ds18b20Meas)
    (buffers others : Buffers) :
    (sendMeasurements first buffers).2 = (sendMeasurements second others).2 ↔
      first.dht11Meas.humidity = second.dht11Meas.humidity := by
  rw [sendMeasurements_messages, sendMeasurements_messages]
  constructor
  · intro same
    have posts : postText (jsonText first) = postText (jsonText second) :=
      (List.cons.inj (List.cons.inj same).2).1
    have objects := parseObject?_jsonText first
    rw [postText_injective posts, parseObject?_jsonText second] at objects
    simp only [payload, Option.some.injEq, List.cons.injEq, Prod.mk.injEq]
      at objects
    exact UInt8.toNat_inj.mp (numeral_injective objects.2.2.2.2.1.2.symm)
  · intro humidity
    have texts : jsonText first = jsonText second := by
      simp only [jsonText, payload, bmp280Meas, ds18b20Meas, humidity]
    rw [texts]

end QuarkMeteoStation.ESP
