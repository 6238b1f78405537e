import QuarkMeteoStation.ESP.Payload

namespace QuarkMeteoStation.ESP

open Library
open Library.Decimal

/-! How far the three static buffers are written. -/

theorem sendMeasurements_written (meas : Measurements) (buffers : Buffers) :
    let json := (jsonText meas).length
    let post := (postText (jsonText meas)).length
    let after := (sendMeasurements meas buffers).1
    after.postBuffer.written = max buffers.postBuffer.written (post + 1) ∧
      after.tempBuffer.written =
        max buffers.tempBuffer.written
          (max (json + 1) ((sendATText post).length + 1)) ∧
      after.utoaBuffer.written =
        max buffers.utoaBuffer.written
          (max (jsonDigits meas)
            (max ((numeral json).length + 1) ((numeral post).length + 1))) := by
  intro json post after
  have bound := length_postText_jsonText_le meas
  have prepared := prepareJson_built meas buffers
  have request := preparePostRequest_assembled meas buffers
  obtain ⟨command, -⟩ := writeTcpSendAT_spec (preparePostRequest meas buffers)
    request.built.holds (by omega)
  have final : after = (writeTcpSendAT (preparePostRequest meas buffers)).1 :=
    rfl
  have postKept := prepared.frame .post (by decide)
  have postFinal := command.frame .post (by decide)
  have tempKept := request.frame .temp (by decide)
  have postWritten := request.built.written
  have jsonWritten := prepared.built.written
  have commandWritten := command.built.written
  simp only [Buffers.get] at postKept postFinal tempKept
  simp only [Buffers.get] at postWritten jsonWritten commandWritten
  refine ⟨?_, ?_, ?_⟩
  · rw [final, postFinal, postWritten, postKept]
  · rw [final, commandWritten, tempKept, jsonWritten]
    simp only [json, post]
    omega
  · rw [final, command.scratch, request.scratch, prepared.scratch]
    simp only [json, post]
    omega

theorem unsignedTemperature_of_negative {meas : BMP280Meas}
    (negative : meas.temperature.toInt < 0) :
    2 ^ 31 ≤ (unsignedTemperature meas).toNat := by
  have lower := meas.temperature.le_toInt
  simp only [unsignedTemperature, UInt32.ofInt, UInt32.toNat_ofNat']
  omega

theorem jsonDigits_le_iff (meas : Measurements)
    (warmest : meas.bmp280Meas.temperature.toInt < 10 ^ 7)
    (pressureBound : meas.bmp280Meas.pressure.toNat < 10 ^ 7) :
    jsonDigits meas ≤ maxUtoaSize ↔
      0 ≤ meas.bmp280Meas.temperature.toInt := by
  have pressure : (numeral meas.bmp280Meas.pressure.toNat).length ≤ 7 :=
    (length_numeral_le_iff (by decide) _).mpr pressureBound
  have outdoor := length_numeral_magnitude meas.ds18b20Meas
  have humidity := length_numeral_uint8 meas.dht11Meas.humidity
  have indoor : (numeral (unsignedTemperature meas.bmp280Meas).toNat).length ≤ 7 ↔
      0 ≤ meas.bmp280Meas.temperature.toInt := by
    rw [length_numeral_le_iff (by decide)]
    constructor
    · intro short
      by_contra negative
      have large := unsignedTemperature_of_negative (Int.not_le.mp negative)
      omega
    · intro nonnegative
      have upper := meas.bmp280Meas.temperature.toInt_lt
      simp only [unsignedTemperature, UInt32.ofInt, UInt32.toNat_ofNat']
      omega
  simp only [jsonDigits, maxUtoaSize]
  omega

theorem initial_inBounds : Buffers.initial.InBounds := by
  constructor <;> simp [Buffers.initial]

theorem jsonDigits_le_of_inBounds {meas : Measurements}
    (safe : (sendMeasurements meas Buffers.initial).1.InBounds) :
    jsonDigits meas ≤ maxUtoaSize := by
  have scratch := safe.utoa
  rw [(sendMeasurements_written meas Buffers.initial).2.2] at scratch
  omega

theorem connectToServer_inBounds {buffers : Buffers}
    (inBounds : buffers.InBounds) : (connectToServer buffers).1.InBounds := by
  obtain ⟨post, temp, scratch⟩ := inBounds
  obtain ⟨connected, -⟩ := connectToServer_spec buffers
  have postKept := connected.frame .post (by decide)
  have tempWritten := connected.built.written
  have scratchKept := connected.scratch
  have length : connectText.length = 43 := by decide
  simp only [Buffers.get] at postKept tempWritten
  simp only [maxTempSize, maxUtoaSize] at temp scratch
  refine ⟨?_, ?_, ?_⟩
  · rw [postKept]
    exact post
  · simp only [maxTempSize]
    omega
  · simp only [maxUtoaSize]
    omega

/-- The numbers of the payload decide; everything else always fits. -/
theorem sendMeasurements_inBounds {meas : Measurements}
    (short : jsonDigits meas ≤ maxUtoaSize) {buffers : Buffers}
    (inBounds : buffers.InBounds) :
    (sendMeasurements meas buffers).1.InBounds := by
  have jsonBound := length_jsonText_le meas
  have postBound := length_postText_jsonText_le meas
  have jsonLength : (numeral (jsonText meas).length).length ≤ 7 :=
    (length_numeral_le_iff (by decide) _).mpr (by omega)
  have postLength :
      (numeral (postText (jsonText meas)).length).length ≤ 7 :=
    (length_numeral_le_iff (by decide) _).mpr (by omega)
  have commandBound :
      (sendATText (postText (jsonText meas)).length).length ≤ 20 := by
    simp [sendATText, ascii]
    omega
  obtain ⟨post, temp, scratch⟩ := inBounds
  obtain ⟨postWritten, tempWritten, scratchWritten⟩ :=
    sendMeasurements_written meas buffers
  simp only [maxPostSize, maxTempSize, maxUtoaSize] at post temp scratch short
  refine ⟨?_, ?_, ?_⟩
  · simp only [maxPostSize]
    omega
  · simp only [maxTempSize]
    omega
  · simp only [maxUtoaSize]
    omega

/-- With the averages in the sensors' ranges, no call writes outside the three
buffers exactly when the indoor temperature is not negative. -/
theorem buffers_inBounds_iff (meas : Measurements)
    (warmest : meas.bmp280Meas.temperature.toInt ≤ 8500)
    (pressureBound : meas.bmp280Meas.pressure.toNat < 10 ^ 7) :
    (∀ buffers : Buffers, buffers.InBounds →
        (connectToServer buffers).1.InBounds ∧
          (sendMeasurements meas buffers).1.InBounds) ↔
      0 ≤ meas.bmp280Meas.temperature.toInt := by
  have digits := jsonDigits_le_iff meas (by omega) pressureBound
  constructor
  · intro safe
    exact digits.mp
      (jsonDigits_le_of_inBounds (safe Buffers.initial initial_inBounds).2)
  · intro nonnegative buffers inBounds
    exact ⟨connectToServer_inBounds inBounds,
      sendMeasurements_inBounds (digits.mpr nonnegative) inBounds⟩

theorem buffers_inBounds_at_summer_noon :
    (sendMeasurements
      ⟨⟨101325, 8500⟩, ⟨.negative, 255, 255⟩, ⟨255, 255⟩⟩
      Buffers.initial).1.InBounds :=
  ((buffers_inBounds_iff ⟨⟨101325, 8500⟩, ⟨.negative, 255, 255⟩, ⟨255, 255⟩⟩
    (by decide) (by decide)).mpr (by decide) Buffers.initial
      initial_inBounds).2

theorem buffers_overrun_below_zero :
    ¬∀ (meas : Measurements) (buffers : Buffers),
        -4000 ≤ meas.bmp280Meas.temperature.toInt →
        meas.bmp280Meas.temperature.toInt ≤ 8500 →
        meas.bmp280Meas.pressure.toNat < 10 ^ 7 → buffers.InBounds →
          (connectToServer buffers).1.InBounds ∧
            (sendMeasurements meas buffers).1.InBounds := by
  intro claimed
  have safe := claimed frostyMeasurements Buffers.initial (by decide)
    (by decide) (by decide) initial_inBounds
  have nonnegative := (jsonDigits_le_iff frostyMeasurements (by decide)
    (by decide)).mp (jsonDigits_le_of_inBounds safe.2)
  exact absurd nonnegative (by decide)

end QuarkMeteoStation.ESP
