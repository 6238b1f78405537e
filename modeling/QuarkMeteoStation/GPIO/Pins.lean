import QuarkMeteoStation.GPIO

namespace QuarkMeteoStation

/-! Single bits of the port's registers. -/

namespace Port

def isSet (register : UInt32) (pin : UInt8) : Bool :=
  register.toBitVec.getLsbD pin.toNat

def isHigh : QmGpioState → Bool
  | .low => false
  | .high => true

theorem isSet_pinMask {pin : UInt8} (inPort : pin.toNat < 32)
    (other : UInt8) :
    isSet (pinMask pin) other = decide (other = pin) := by
  have mask : (pinMask pin).toBitVec = BitVec.twoPow 32 pin.toNat := by
    apply BitVec.eq_of_toNat_eq
    simp [pinMask, Nat.shiftLeft_eq, BitVec.toNat_twoPow,
      Nat.mod_eq_of_lt inPort]
  rw [isSet, mask, BitVec.getLsbD_twoPow]
  by_cases same : other = pin
  · subst same
    simp [inPort]
  · have apart : pin.toNat ≠ other.toNat := fun equal =>
      same (UInt8.toNat_inj.mp equal.symm)
    simp [same, apart]

theorem isSet_or (first second : UInt32) (pin : UInt8) :
    isSet (first ||| second) pin = (isSet first pin || isSet second pin) := by
  simp [isSet]

theorem isSet_andNot (first second : UInt32) (pin : UInt8) :
    isSet (first &&& ~~~second) pin =
      (isSet first pin && !isSet second pin) := by
  by_cases inPort : pin.toNat < 32
  · simp [isSet, inPort]
  · simp [isSet, BitVec.getLsbD_of_ge _ _ (Nat.not_lt.mp inPort)]

variable {port : Port} {pin : UInt8}

theorem isSet_latch_setPinState (inPort : pin.toNat < 32)
    (state : QmGpioState) (other : UInt8) :
    isSet (port.setPinState pin state).latch other =
      if other = pin then isHigh state else isSet port.latch other := by
  cases state with
  | low =>
      simp only [setPinState, record, isSet_andNot, isSet_pinMask inPort,
        isHigh]
      by_cases same : other = pin <;> simp [same]
  | high =>
      simp only [setPinState, record, isSet_or, isSet_pinMask inPort, isHigh]
      by_cases same : other = pin <;> simp [same]

theorem isSet_latch_clearPin (inPort : pin.toNat < 32) (other : UInt8) :
    isSet (port.clearPin pin).latch other =
      if other = pin then false else isSet port.latch other :=
  isSet_latch_setPinState inPort .low other

end Port

end QuarkMeteoStation
