import QuarkMeteoStation.BMP280
import QuarkMeteoStation.Library.Checked

namespace QuarkMeteoStation

open Library

/-! The compensation as the sensor's vendor gives it, and the source's next to
it with its signed operations watched. -/

namespace BMP280

/-- The trimming parameters, widened to words. -/
structure Trimming where
  t1 : Int32
  t2 : Int32
  t3 : Int32
  p1 : Int32
  p2 : Int32
  p3 : Int32
  p4 : Int32
  p5 : Int32
  p6 : Int32
  p7 : Int32
  p8 : Int32
  p9 : Int32
  deriving DecidableEq, Repr

namespace Vendor

abbrev Calibration := Vector UInt8 calDataSize
abbrev Registers := Vector UInt8 measDataSize

def littleEndian (calibration : Calibration) (index : Nat) : Nat :=
  (calibration.getD (2 * index) 0).toNat +
    256 * (calibration.getD (2 * index + 1) 0).toNat

def unsigned (calibration : Calibration) (index : Nat) : Int32 :=
  Int32.ofInt (littleEndian calibration index)

def signed (calibration : Calibration) (index : Nat) : Int32 :=
  Int32.ofInt (Int.bmod (littleEndian calibration index) 65536)

def trimming (calibration : Calibration) : Trimming where
  t1 := unsigned calibration 0
  t2 := signed calibration 1
  t3 := signed calibration 2
  p1 := unsigned calibration 3
  p2 := signed calibration 4
  p3 := signed calibration 5
  p4 := signed calibration 6
  p5 := signed calibration 7
  p6 := signed calibration 8
  p7 := signed calibration 9
  p8 := signed calibration 10
  p9 := signed calibration 11

/-- Twenty bits, the most significant byte first. -/
def bigEndian (msb lsb xlsb : UInt8) : Int32 :=
  Int32.ofNat (4096 * msb.toNat + 16 * lsb.toNat + xlsb.toNat / 16)

def adcP (registers : Registers) : Int32 :=
  bigEndian (registers.getD 0 0) (registers.getD 1 0) (registers.getD 2 0)

def adcT (registers : Registers) : Int32 :=
  bigEndian (registers.getD 3 0) (registers.getD 4 0) (registers.getD 5 0)

variable (trimming : Trimming)

def tFine (adcT : Checked) : Checked :=
  let e : Checked := (adcT >>> 4) - trimming.t1
  let linear : Checked := (((adcT >>> 3) - 2 * trimming.t1) * trimming.t2) >>> 11
  let square : Checked := (((e * e) >>> 12) * trimming.t3) >>> 14
  linear + square

def temperature (tFine : Checked) : Checked :=
  (5 * tFine + 128) >>> 8

def a (tFine : Checked) : Checked :=
  (tFine >>> 1) - 64000

def b (a : Checked) : Checked :=
  let square : Checked := (((a >>> 2) * (a >>> 2)) >>> 11) * trimming.p6
  let linear : Checked := (a * trimming.p5) <<< 1
  let b : Checked := square + linear
  let constant : Checked := (trimming.p4 : Checked) <<< 16
  (b >>> 2) + constant

/-- The square the term of `P3` is made of is left open. -/
def c (square a : Checked) : Checked :=
  let quadratic : Checked := ((trimming.p3 : Checked) * (square >>> 13)) >>> 3
  let linear : Checked := ((trimming.p2 : Checked) * a) >>> 1
  (quadratic + linear) >>> 18

def d (c : Checked) : Checked :=
  ((32768 + c) * trimming.p1) >>> 15

def q (adcP b : Int32) : UInt32 :=
  (((1048576 : Int32) - adcP) - (b >>> 12)).toUInt32 * 3125

def r (q d : UInt32) : UInt32 :=
  if q < 2147483648 then (2 * q) / d else (q / d) * 2

def pressure (r : UInt32) : Checked :=
  let square : Checked := ((((r >>> 3) * (r >>> 3)) >>> 13).toInt32 : Int32)
  let ninth : Checked := ((trimming.p9 : Checked) * square) >>> 12
  let eighth : Checked := (((r >>> 2).toInt32 : Checked) * trimming.p8) >>> 13
  let correction : Checked := (ninth + eighth + trimming.p7) >>> 4
  (r.toInt32 : Checked) + correction

/-- The measurement, and whether all signed operations stayed in range. -/
def compensate (trimming : Trimming) (adcP adcT : Int32) : BMP280Meas × Bool :=
  let tFine := tFine trimming adcT
  let temperature := temperature tFine
  let a := a tFine
  let b := b trimming a
  let d := d trimming (c trimming ((a >>> 2) * (a >>> 2)) a)
  let inRange := temperature.exact && b.exact && d.exact
  if d.value = 0 then
    ({ pressure := 0, temperature := temperature.value }, inRange)
  else
    let difference : Checked := 1048576 - (adcP : Checked)
    let pressure := pressure trimming (r (q adcP b.value) d.value.toUInt32)
    ({ pressure := pressure.value.toUInt32, temperature := temperature.value },
      inRange && difference.exact && pressure.exact)

end Vendor

def Cal.trimming (cal : Cal) : Trimming where
  t1 := cal.t1
  t2 := cal.t2
  t3 := cal.t3
  p1 := cal.p1
  p2 := cal.p2
  p3 := cal.p3
  p4 := cal.p4
  p5 := cal.p5
  p6 := cal.p6
  p7 := cal.p7
  p8 := cal.p8
  p9 := cal.p9

/-- `computeCompensation` with its signed operations watched. -/
def checkedCompensation (cal : Cal) (meas : BMP280Meas) : BMP280Meas × Bool :=
  let adcT : Checked := meas.temperature
  let presSigned : Checked := meas.pressure.toInt32
  let var1 : Checked :=
    (((adcT >>> 3) - ((cal.t1 : Checked) <<< 1)) * cal.t2) >>> 11
  let var2 : Checked :=
    (((((adcT >>> 4) - cal.t1) * ((adcT >>> 4) - cal.t1)) >>> 12) *
      cal.t3) >>> 14
  let tFine : Checked := var1 + var2
  let temperature : Checked := (tFine * 5 + 128) >>> 8
  let var1 : Checked := (tFine >>> 1) - 64000
  let var2 : Checked := (((var1 >>> 2) * (var1 >>> 2)) >>> 11) * cal.p6
  let var2 : Checked := var2 + ((var1 * cal.p5) <<< 1)
  let var2 : Checked := (var2 >>> 2) + ((cal.p4 : Checked) <<< 16)
  let var1 : Checked :=
    ((((cal.p3 : Checked) * (((var1 <<< 2) * (var1 >>> 2)) >>> 13)) >>> 3) +
      (((cal.p2 : Checked) * var1) >>> 1)) >>> 18
  let var1 : Checked := ((32768 + var1) * cal.p1) >>> 15
  let inRange := temperature.exact && var2.exact && var1.exact
  if var1.value = 0 then
    ({ pressure := 0, temperature := temperature.value }, inRange)
  else
    let difference : Checked := 1048576 - presSigned
    let pressure : UInt32 :=
      (difference.value.toUInt32 - (var2.value >>> 12).toUInt32) * 3125
    let pressure : UInt32 := pressureQuotient pressure var1.value.toUInt32
    let var1 : Checked :=
      ((cal.p9 : Checked) *
        ((((pressure >>> 3) * (pressure >>> 3)) >>> 13).toInt32 : Int32)) >>> 12
    let var2 : Checked := (((pressure >>> 2).toInt32 : Checked) * cal.p8) >>> 13
    let pressure : Checked :=
      (pressure.toInt32 : Checked) + ((var1 + var2 + cal.p7) >>> 4)
    ({ pressure := pressure.value.toUInt32, temperature := temperature.value },
      inRange && difference.exact && pressure.exact)

theorem checkedCompensation_fst (cal : Cal) (meas : BMP280Meas) :
    (checkedCompensation cal meas).1 = computeCompensation cal meas :=
  apply_ite Prod.fst _ _ _

section Bytes

theorem toNat_join (low high : UInt8) :
    (low.toUInt16 ||| (high.toUInt16 <<< 8)).toNat =
      low.toNat + 256 * high.toNat := by
  have lowBound := low.toNat_lt
  have highBound := high.toNat_lt
  have shifted : (high.toUInt16 <<< 8).toNat = high.toNat <<< 8 := by
    rw [UInt16.toNat_shiftLeft, UInt8.toNat_toUInt16]
    change (high.toNat <<< 8) % 2 ^ 16 = _
    exact Nat.mod_eq_of_lt (by rw [Nat.shiftLeft_eq]; omega)
  rw [UInt16.toNat_or, shifted, UInt8.toNat_toUInt16, Nat.or_comm,
    ← Nat.shiftLeft_add_eq_or_of_lt lowBound, Nat.shiftLeft_eq]
  omega

theorem toNat_merge (msb lsb xlsb : UInt8) :
    (merge msb lsb xlsb).toNat =
      4096 * msb.toNat + 16 * lsb.toNat + xlsb.toNat / 16 := by
  have msbBound := msb.toNat_lt
  have lsbBound := lsb.toNat_lt
  have xlsbBound := xlsb.toNat_lt
  have top : (msb.toUInt32 <<< 12).toNat = msb.toNat <<< 12 := by
    rw [UInt32.toNat_shiftLeft, UInt8.toNat_toUInt32]
    change (msb.toNat <<< 12) % 2 ^ 32 = _
    exact Nat.mod_eq_of_lt (by rw [Nat.shiftLeft_eq]; omega)
  have middle : (lsb.toUInt32 <<< 4).toNat = lsb.toNat <<< 4 := by
    rw [UInt32.toNat_shiftLeft, UInt8.toNat_toUInt32]
    change (lsb.toNat <<< 4) % 2 ^ 32 = _
    exact Nat.mod_eq_of_lt (by rw [Nat.shiftLeft_eq]; omega)
  have bottom : (xlsb.toUInt32 >>> 4).toNat = xlsb.toNat / 16 := by
    rw [UInt32.toNat_shiftRight, UInt8.toNat_toUInt32]
    exact Nat.shiftRight_eq_div_pow _ 4
  have lowerFits : xlsb.toNat / 16 < 2 ^ 4 := by omega
  have upperFits : lsb.toNat <<< 4 + xlsb.toNat / 16 < 2 ^ 12 := by
    rw [Nat.shiftLeft_eq]
    omega
  rw [merge, UInt32.toNat_or, UInt32.toNat_or, top, middle, bottom,
    Nat.or_assoc, ← Nat.shiftLeft_add_eq_or_of_lt lowerFits,
    ← Nat.shiftLeft_add_eq_or_of_lt upperFits, Nat.shiftLeft_eq,
    Nat.shiftLeft_eq]
  omega

theorem toInt_toInt32 (value : UInt32) :
    value.toInt32.toInt = (value.toNat : Int).bmod (2 ^ 32) :=
  BitVec.toInt_eq_toNat_bmod value.toBitVec

theorem toInt_toInt16 (value : UInt16) :
    value.toInt16.toInt = (value.toNat : Int).bmod (2 ^ 16) :=
  BitVec.toInt_eq_toNat_bmod value.toBitVec

theorem getD_of_lt {size index : Nat} (bytes : Vector UInt8 size)
    (inBounds : index < size) : bytes.getD index 0 = bytes[index] := by
  have within : index < bytes.toArray.size := by
    rw [bytes.size_toArray]
    exact inBounds
  unfold Vector.getD Array.getD
  rw [dif_pos within]
  rfl

theorem toNat_word (calibration : Vendor.Calibration) (index : Fin 12) :
    (Cal.word ⟨calibration⟩ index).toNat =
      Vendor.littleEndian calibration index := by
  have high : 2 * index.val + 1 < calDataSize := by
    have := index.isLt
    unfold calDataSize
    omega
  have low : 2 * index.val < calDataSize := Nat.lt_of_succ_lt high
  rw [Vendor.littleEndian, getD_of_lt _ low, getD_of_lt _ high]
  exact toNat_join _ _

theorem unsigned_eq (calibration : Vendor.Calibration) (index : Fin 12) :
    Cal.unsigned ⟨calibration⟩ index = Vendor.unsigned calibration index := by
  apply Int32.toInt_inj.mp
  rw [Vendor.unsigned, Int32.toInt_ofInt, ← toNat_word, Cal.unsigned, toInt_toInt32,
    UInt16.toNat_toUInt32]
  rfl

theorem fits_bmod (value : Int) : FitsInt32 (value.bmod 65536) := by
  have lower : -32768 ≤ value.bmod 65536 := @Int.le_bmod value 65536 (by decide)
  have upper : value.bmod 65536 < 32768 := @Int.bmod_lt value 65536 (by decide)
  exact ⟨by omega, by omega⟩

theorem signed_eq (calibration : Vendor.Calibration) (index : Fin 12) :
    Cal.signed ⟨calibration⟩ index = Vendor.signed calibration index := by
  have left : (Cal.signed ⟨calibration⟩ index).toInt =
      Int.bmod (Vendor.littleEndian calibration index) 65536 := by
    rw [Cal.signed, Int16.toInt_toInt32, toInt_toInt16, toNat_word]
    rfl
  have right : (Vendor.signed calibration index).toInt =
      Int.bmod (Vendor.littleEndian calibration index) 65536 := by
    have fits := fits_bmod (Vendor.littleEndian calibration index)
    exact Int32.toInt_ofInt_of_le fits.1 (Int.lt_of_le_of_lt fits.2 (by decide))
  exact Int32.toInt_inj.mp (left.trans right.symm)

theorem merge_eq (msb lsb xlsb : UInt8) :
    (merge msb lsb xlsb).toInt32 = Vendor.bigEndian msb lsb xlsb := by
  apply Int32.toInt_inj.mp
  rw [Vendor.bigEndian, Int32.toInt_ofNat', ← toNat_merge, toInt_toInt32]
  rfl

theorem trimming_eq (calibration : Vendor.Calibration) :
    Cal.trimming ⟨calibration⟩ = Vendor.trimming calibration := by
  simp only [Cal.trimming, Cal.t1, Cal.t2, Cal.t3, Cal.p1, Cal.p2, Cal.p3,
    Cal.p4, Cal.p5, Cal.p6, Cal.p7, Cal.p8, Cal.p9, unsigned_eq, signed_eq]
  rfl

end Bytes

end BMP280

end QuarkMeteoStation
