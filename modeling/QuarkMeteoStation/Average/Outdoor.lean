import QuarkMeteoStation.Average.Exact
import QuarkMeteoStation.ESP.Report

namespace QuarkMeteoStation

open Library
open Library.Decimal

/-! The outdoor average on its way from the readings to the `To` field. -/

def averageDS18B20 (readings : List DS18B20Meas) (averages : Averages) :
    Averages :=
  readings.foldl (fun averages meas => averageUpdateDS18B20 meas averages)
    (averageReset averages)

theorem averageDS18B20_accounts (readings : List DS18B20Meas)
    (averages : Averages) :
    (averageDS18B20 readings averages).Accounts
      { Window.empty with ds18b20 := readings } := by
  induction readings using List.reverseRecOn with
  | nil => exact averageReset_accounts averages
  | append_singleton earlier last induction =>
      have updated := averageUpdateDS18B20_accounts induction last
      simpa [averageDS18B20, Window.addDS18B20] using updated

def meanHundredths (readings : List DS18B20Meas) : Int :=
  truncatedMean (readings.map DS18B20Meas.hundredths)

def outdoorField (meas : ESP.Measurements) (buffers : ESP.Buffers) :
    Option (List UInt8) :=
  (FlatJson.parseObject? (ESP.preparedJson meas buffers)).bind
    fun members => members.lookup (ascii "To")

theorem outdoorField_eq (meas : ESP.Measurements) (buffers : ESP.Buffers) :
    outdoorField meas buffers = some (ESP.outdoorNumeral meas.ds18b20Meas) := by
  rw [outdoorField, ESP.preparedJson_eq, ESP.parseObject?_jsonText]
  simp [ESP.payload, ascii, List.lookup_cons]

/-- A published reading stands for `mean` and is uploaded as its numeral. -/
structure DS18B20Meas.Reports (published : DS18B20Meas) (mean : Int) :
    Prop where
  sign : published.sign = .negative ↔ mean < 0
  magnitude : published.integer.toNat * 100 + published.fraction.toNat =
    mean.natAbs
  fraction : published.fraction.toNat ≤ 99
  uploaded : ∀ meas buffers, meas.ds18b20Meas = published →
    outdoorField meas buffers = some (signedNumeral mean)

theorem ds18b20MeasAvg_split {readings : List DS18B20Meas}
    (nonempty : readings ≠ []) (few : readings.length < 2 ^ 16)
    (averages : Averages) :
    let mean := meanHundredths readings
    let published := (averageDS18B20 readings averages).ds18b20MeasAvg
    (published.sign = .negative ↔ mean < 0) ∧
      (published.integer.toNat : Int) = mean.tdiv 100 % 256 ∧
      (published.fraction.toNat : Int) = mean.tmod 100 % 256 := by
  intro mean published
  have accounts := averageDS18B20_accounts readings averages
  have exact := accounts.ds18b20.exact few
  simp only [published]
  rw [accounts.ds18b20Published nonempty]
  exact exact.result nonempty

private theorem negative_split {mean : Int} (negative : mean < 0) :
    mean.tdiv 100 = -(mean.natAbs / 100 : Nat) ∧
      mean.tmod 100 = -(mean.natAbs % 100 : Nat) := by
  have magnitude : mean = -(mean.natAbs : Int) := by omega
  constructor
  · rw [magnitude, Int.neg_tdiv, Int.natAbs_neg, Int.natAbs_natCast]
    rfl
  · rw [magnitude, Int.neg_tmod, Int.natAbs_neg, Int.natAbs_natCast]
    rfl

theorem outdoor_reports_of_nonneg {published : DS18B20Meas} {mean : Int}
    (nonnegative : 0 ≤ mean) (bound : mean ≤ 25599)
    (sign : published.sign = .negative ↔ mean < 0)
    (integer : (published.integer.toNat : Int) = mean.tdiv 100 % 256)
    (fraction : (published.fraction.toNat : Int) = mean.tmod 100 % 256) :
    published.Reports mean := by
  rw [Int.tdiv_eq_ediv_of_nonneg nonnegative] at integer
  rw [Int.tmod_eq_emod_of_nonneg nonnegative] at fraction
  have magnitude : published.integer.toNat * 100 + published.fraction.toNat =
      mean.natAbs := by omega
  refine ⟨sign, magnitude, by omega, ?_⟩
  intro meas buffers holds
  have positive : published.sign ≠ .negative := fun negative =>
    absurd (sign.mp negative) (by omega)
  rw [outdoorField_eq, holds]
  simp only [ESP.outdoorNumeral, if_neg positive, ESP.magnitude, magnitude,
    signedNumeral, if_neg (Int.not_lt.mpr nonnegative), List.nil_append]

/-- The two bytes of a negative mean never recombine to its magnitude. -/
theorem outdoor_misreports_of_neg {published : DS18B20Meas} {mean : Int}
    (negative : mean < 0) (bound : -12799 ≤ mean)
    (integer : (published.integer.toNat : Int) = mean.tdiv 100 % 256)
    (fraction : (published.fraction.toNat : Int) = mean.tmod 100 % 256) :
    ¬published.Reports mean := by
  intro reports
  obtain ⟨quotient, remainder⟩ := negative_split negative
  have magnitude := reports.magnitude
  have small := reports.fraction
  omega

/-- For readings a sensor can produce, the outdoor average reaches the upload
with its value exactly when it is not negative. -/
theorem outdoor_average_reported_iff (readings : List DS18B20Meas)
    (averages : Averages) (nonempty : readings ≠ [])
    (few : readings.length ≤ 65535)
    (inRange : ∀ meas ∈ readings,
      meas.integer.toNat ≤ 127 ∧ meas.fraction.toNat ≤ 99) :
    (averageDS18B20 readings averages).ds18b20MeasAvg.Reports
        (meanHundredths readings) ↔
      -(readings.length : Int) < (readings.map DS18B20Meas.hundredths).sum := by
  obtain ⟨sign, integer, fraction⟩ :=
    ds18b20MeasAvg_split nonempty (by omega) averages
  have sampleBounds : ∀ sample ∈ readings.map DS18B20Meas.hundredths,
      -12799 ≤ sample ∧ sample ≤ 12799 := by
    intro sample member
    obtain ⟨meas, measIn, rfl⟩ := List.mem_map.mp member
    obtain ⟨integerBound, fractionBound⟩ := inRange meas measIn
    unfold DS18B20Meas.hundredths
    cases meas.sign <;> simp only <;> omega
  have samplesNonempty : readings.map DS18B20Meas.hundredths ≠ [] := by
    simpa using nonempty
  have meanBounds : -12799 ≤ meanHundredths readings ∧
      meanHundredths readings ≤ 12799 :=
    truncatedMean_bounds samplesNonempty
      (fun sample member => (sampleBounds sample member).1)
      (fun sample member => (sampleBounds sample member).2)
  have condition := truncatedMean_nonneg_iff samplesNonempty
  rw [List.length_map] at condition
  rw [← condition]
  constructor
  · intro reports
    by_contra negative
    exact outdoor_misreports_of_neg (Int.not_le.mp negative) meanBounds.1
      integer fraction reports
  · intro nonnegative
    exact outdoor_reports_of_nonneg nonnegative (by omega) sign integer fraction

theorem outdoor_average_reported_at_thaw :
    (averageDS18B20 [⟨.negative, 2, 25⟩, ⟨.positive, 7, 50⟩]
      Averages.cleared).ds18b20MeasAvg.Reports
        (meanHundredths [⟨.negative, 2, 25⟩, ⟨.positive, 7, 50⟩]) :=
  (outdoor_average_reported_iff [⟨.negative, 2, 25⟩, ⟨.positive, 7, 50⟩]
    Averages.cleared (by decide) (by decide) (by decide)).mpr (by decide)

theorem outdoor_average_misreported_below_zero :
    ¬∀ (readings : List DS18B20Meas) (averages : Averages), readings ≠ [] →
        readings.length ≤ 65535 →
        (∀ meas ∈ readings,
          meas.integer.toNat ≤ 127 ∧ meas.fraction.toNat ≤ 99) →
        (averageDS18B20 readings averages).ds18b20MeasAvg.Reports
          (meanHundredths readings) := by
  intro claimed
  have reports := claimed [⟨.negative, 5, 25⟩] Averages.cleared (by decide)
    (by decide) (by decide)
  obtain ⟨-, integer, fraction⟩ :=
    @ds18b20MeasAvg_split [⟨.negative, 5, 25⟩] (by decide) (by decide)
      Averages.cleared
  exact outdoor_misreports_of_neg (by decide) (by decide) integer fraction
    reports

end QuarkMeteoStation
