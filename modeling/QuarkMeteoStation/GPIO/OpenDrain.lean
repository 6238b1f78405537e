import QuarkMeteoStation.GPIO.Pins

namespace QuarkMeteoStation

/-! Open-drain lines on a shared port: a pin is pulled low by making it an
output while its latch bit is low, and released by making it an input again. -/

namespace Port

/-- Nothing drives one of these pins high. -/
def Undriven (sensors : List UInt8) (access : UInt32 × UInt32) : Prop :=
  ∀ pin ∈ sensors, ¬(isSet access.1 pin = true ∧ isSet access.2 pin = true)

/-- The state every call leaves: the directions are back where they were, and
the pins cleared so far are still low in the latch. -/
structure Held (directions : UInt32) (sensors cleared : List UInt8)
    (port : Port) : Prop where
  configured : port.configDirection = directions
  applied : port.direction = directions
  low : ∀ pin ∈ cleared, isSet port.latch pin = false
  undriven : ∀ access ∈ port.accesses, Undriven sensors access

theorem eq_of_isSet {first second : UInt32}
    (same : ∀ pin, isSet first pin = isSet second pin) : first = second := by
  apply UInt32.toBitVec_inj.mp
  apply BitVec.eq_of_getLsbD_eq
  intro index inPort
  have bit := same (UInt8.ofNat index)
  rw [isSet, isSet, UInt8.toNat_ofNat', Nat.mod_eq_of_lt (by omega)] at bit
  exact bit

theorem andNot_pinMask {register : UInt32} {pin : UInt8}
    (inPort : pin.toNat < 32) (input : isSet register pin = false) :
    register &&& ~~~pinMask pin = register := by
  apply eq_of_isSet
  intro other
  rw [isSet_andNot, isSet_pinMask inPort]
  by_cases same : other = pin
  · rw [same, input]
    rfl
  · simp [same]

theorem or_andNot_pinMask {register : UInt32} {pin : UInt8}
    (inPort : pin.toNat < 32) (input : isSet register pin = false) :
    (register ||| pinMask pin) &&& ~~~pinMask pin = register := by
  apply eq_of_isSet
  intro other
  rw [isSet_andNot, isSet_or, isSet_pinMask inPort]
  by_cases same : other = pin
  · rw [same, input]
    simp
  · simp [same]

section Held

variable {directions : UInt32} {sensors cleared : List UInt8} {port : Port}
variable {pin : UInt8}

theorem undriven_of_inputs
    (inputs : ∀ pin ∈ sensors, isSet directions pin = false) (latch : UInt32) :
    Undriven sensors (directions, latch) := by
  intro pin member driven
  rw [inputs pin member] at driven
  exact Bool.false_ne_true driven.1

theorem Held.readPin (held : Held directions sensors cleared port) :
    Held directions sensors cleared port.readPin.2 where
  configured := held.configured
  applied := held.applied
  low := held.low
  undriven := held.undriven

/-- Setting another pin's latch bit leaves the cleared ones low. -/
theorem Held.setPinState (held : Held directions sensors cleared port)
    (inputs : ∀ pin ∈ sensors, isSet directions pin = false)
    (inPort : pin.toNat < 32) (other : pin ∉ cleared) (state : QmGpioState) :
    Held directions sensors cleared (port.setPinState pin state) where
  configured := by
    cases state <;> exact held.configured
  applied := by
    cases state <;> exact held.applied
  low := by
    intro low member
    rw [isSet_latch_setPinState inPort, if_neg (by rintro rfl; exact other member)]
    exact held.low low member
  undriven := by
    have pushed : (port.setPinState pin state).accesses =
        (port.direction, (port.setPinState pin state).latch) ::
          port.accesses := by
      cases state <;> rfl
    rw [pushed, held.applied, List.forall_mem_cons]
    exact ⟨undriven_of_inputs inputs _, held.undriven⟩

theorem Held.clearPin (held : Held directions sensors cleared port)
    (inputs : ∀ pin ∈ sensors, isSet directions pin = false)
    (inPort : pin.toNat < 32) :
    Held directions sensors (pin :: cleared) (port.clearPin pin) where
  configured := held.configured
  applied := held.applied
  low := by
    intro low member
    rw [isSet_latch_clearPin inPort]
    split
    next => rfl
    next other =>
        exact held.low low ((List.mem_cons.mp member).resolve_left other)
  undriven := by
    have pushed : (port.clearPin pin).accesses =
        (port.direction, (port.clearPin pin).latch) :: port.accesses := rfl
    rw [pushed, held.applied, List.forall_mem_cons]
    exact ⟨undriven_of_inputs inputs _, held.undriven⟩

theorem Held.setInput (held : Held directions sensors cleared port)
    (inputs : ∀ pin ∈ sensors, isSet directions pin = false)
    (inPort : pin.toNat < 32) (sensor : pin ∈ sensors) :
    Held directions sensors cleared (port.setInput pin) := by
  have kept : port.configDirection &&& ~~~pinMask pin = directions := by
    rw [held.configured]
    exact andNot_pinMask inPort (inputs pin sensor)
  have pushed : (port.setInput pin).accesses =
      (port.configDirection &&& ~~~pinMask pin, port.latch) ::
        port.accesses := rfl
  refine ⟨kept, kept, held.low, ?_⟩
  rw [pushed, kept, List.forall_mem_cons]
  exact ⟨undriven_of_inputs inputs _, held.undriven⟩

/-- Pulling a cleared pin low and releasing it. -/
theorem Held.slot (held : Held directions sensors cleared port)
    (inputs : ∀ pin ∈ sensors, isSet directions pin = false)
    (inPort : pin.toNat < 32) (sensor : pin ∈ sensors) (low : pin ∈ cleared) :
    Held directions sensors cleared ((port.setOutput pin).setInput pin) := by
  have kept : (port.configDirection ||| pinMask pin) &&& ~~~pinMask pin =
      directions := by
    rw [held.configured]
    exact or_andNot_pinMask inPort (inputs pin sensor)
  have pushed : ((port.setOutput pin).setInput pin).accesses =
      ((port.configDirection ||| pinMask pin) &&& ~~~pinMask pin, port.latch) ::
        (port.configDirection ||| pinMask pin, port.latch) ::
          port.accesses := rfl
  refine ⟨kept, kept, held.low, ?_⟩
  rw [pushed, kept, held.configured, List.forall_mem_cons, List.forall_mem_cons]
  refine ⟨undriven_of_inputs inputs _, ?_, held.undriven⟩
  intro other member driven
  rw [isSet_or, isSet_pinMask inPort, inputs other member, Bool.false_or,
    decide_eq_true_iff] at driven
  rw [driven.1, held.low pin low] at driven
  exact Bool.false_ne_true driven.2

end Held

end Port

end QuarkMeteoStation
