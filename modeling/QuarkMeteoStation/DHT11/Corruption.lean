import QuarkMeteoStation.Average.Window
import QuarkMeteoStation.DHT11.Frames

namespace QuarkMeteoStation

/-! What the checksum makes of a frame that was damaged on the line. -/

namespace DHT11

/-- The register before one reception and the line during it, on which the
sensor answers the reset. -/
structure Reception where
  dataFrame : DataFrame
  port : Port
  present : port.levels port.reads = .low

namespace Reception

def bytes (reception : Reception) : Nat → UInt8 :=
  receivedByte (sample reception.port.levels (reception.port.reads + 1))

def meas (reception : Reception) (config : Config) : DHT11Meas :=
  (getMeasurement config reception.dataFrame reception.port).1

/-- The frame the reception leaves in `data_frame` passes the checksum test. -/
def Accepted (reception : Reception) (config : Config) : Prop :=
  validateChecksum
    (getMeasurement config reception.dataFrame reception.port).2.1 = .valid

instance (reception : Reception) (config : Config) :
    Decidable (reception.Accepted config) :=
  inferInstanceAs (Decidable (_ = _))

theorem accepted_iff (reception : Reception) (config : Config) :
    reception.Accepted config ↔ Checks reception.bytes := by
  have received := (@getMeasurement_present config reception.port
    reception.present reception.dataFrame).2
  rw [Accepted, received]
  exact (readBits_holds reception.dataFrame).1.valid_iff

theorem meas_eq (reception : Reception) (config : Config) :
    reception.meas config = decode reception.bytes :=
  (getMeasurement_present reception.present reception.dataFrame).1

end Reception

/-- Two frames that differ in one byte only cannot both pass: the difference of
two bytes is no multiple of 256. -/
theorem not_checks_of_one_byte {original corrupted : Nat → UInt8}
    (checks : Checks original) {index : Nat} (inFrame : index < 5)
    (differs : corrupted index ≠ original index)
    (elsewhere : ∀ other < 5, other ≠ index →
      corrupted other = original other) :
    ¬Checks corrupted := by
  have bound := (corrupted index).toNat_lt
  have originalBound := (original index).toNat_lt
  have different : (corrupted index).toNat ≠ (original index).toNat :=
    fun same => differs (UInt8.toNat_inj.mp same)
  have kept : ∀ other < 5, other ≠ index →
      (corrupted other).toNat = (original other).toNat :=
    fun other bound away => congrArg UInt8.toNat (elsewhere other bound away)
  unfold Checks at checks ⊢
  intro still
  have position : index = 0 ∨ index = 1 ∨ index = 2 ∨ index = 3 ∨
      index = 4 := by omega
  rcases position with rfl | rfl | rfl | rfl | rfl
  · rw [kept 1, kept 2, kept 3, kept 4] at still <;> omega
  · rw [kept 0, kept 2, kept 3, kept 4] at still <;> omega
  · rw [kept 0, kept 1, kept 3, kept 4] at still <;> omega
  · rw [kept 0, kept 1, kept 2, kept 4] at still <;> omega
  · rw [kept 0, kept 1, kept 2, kept 3] at still <;> omega

/-- Damage confined to one byte of an accepted frame is always reported, and
the averages never see it. -/
theorem corrupted_reception_rejected (config : Config)
    {original corrupted : Reception} (accepted : original.Accepted config)
    {index : Nat} (inFrame : index < 5)
    (differs : corrupted.bytes index ≠ original.bytes index)
    (elsewhere : ∀ other < 5, other ≠ index →
      corrupted.bytes other = original.bytes other)
    (averages : Averages) :
    corrupted.meas config = DHT11Error.checksumError.measurement ∧
      averageUpdateDHT11 (corrupted.meas config) averages = averages := by
  have checks := (original.accepted_iff config).mp accepted
  have rejected := not_checks_of_one_byte checks inFrame differs elsewhere
  have error : corrupted.meas config =
      DHT11Error.checksumError.measurement := by
    rw [corrupted.meas_eq, decode, if_neg rejected]
  refine ⟨error, ?_⟩
  rw [error]
  exact averageUpdateDHT11_of_invalid
    (DHT11Error.measurement_invalid .checksumError) averages

/-- A line that is low but for one read. -/
def spikedReception (spike : Nat) (later : 0 < spike) : Reception where
  dataFrame := ⟨0xFFFFFFFFFFFFFFFF⟩
  port :=
    { configDirection := 0, direction := 0, latch := 0, reads := 0,
      levels := fun read => if read = spike then .high else .low
      accesses := [] }
  present := if_neg (Nat.ne_of_lt later)

theorem corrupted_checksum_rejected :
    (spikedReception 40 (by decide)).meas ⟨15⟩ =
        DHT11Error.checksumError.measurement ∧
      averageUpdateDHT11 ((spikedReception 40 (by decide)).meas ⟨15⟩)
        Averages.cleared = Averages.cleared :=
  @corrupted_reception_rejected ⟨15⟩ (spikedReception 50 (by decide))
    (spikedReception 40 (by decide)) (by decide) 4 (by decide) (by decide)
    (by decide) Averages.cleared

end DHT11

end QuarkMeteoStation
