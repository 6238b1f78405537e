import Mathlib.Tactic.NormNum
import QuarkMeteoStation.GPIO.Pins
import QuarkMeteoStation.HD44780

namespace QuarkMeteoStation

/-! The enable pulses on the display's lines, read off the port's register
accesses. -/

namespace HD44780

abbrev Nibble := Fin 16

instance nibblesNonempty : NeZero 16 := ⟨by decide⟩

/-- What a falling edge of E presents: RS and the lines D7 to D4. -/
structure Pulse where
  mode : Mode
  nibble : Nibble
  deriving DecidableEq, Repr

def upper (byte : UInt8) : Nibble :=
  ⟨byte.toNat / 16, by have := byte.toNat_lt; omega⟩

def lower (byte : UInt8) : Nibble :=
  ⟨byte.toNat % 16, Nat.mod_lt _ (by decide)⟩

def join (high low : Nibble) : UInt8 :=
  UInt8.ofNat (16 * high.val + low.val)

namespace Pins

def toList (pins : Pins) : List UInt8 :=
  [pins.rs, pins.e, pins.d4, pins.d5, pins.d6, pins.d7]

structure Valid (pins : Pins) : Prop where
  distinct : pins.toList.Nodup
  inPort : ∀ pin ∈ pins.toList, pin.toNat < 25

/-- No two of the six pins are the same. -/
structure Apart (pins : Pins) : Prop where
  rsE : pins.rs ≠ pins.e
  rsD4 : pins.rs ≠ pins.d4
  rsD5 : pins.rs ≠ pins.d5
  rsD6 : pins.rs ≠ pins.d6
  rsD7 : pins.rs ≠ pins.d7
  eD4 : pins.e ≠ pins.d4
  eD5 : pins.e ≠ pins.d5
  eD6 : pins.e ≠ pins.d6
  eD7 : pins.e ≠ pins.d7
  d4D5 : pins.d4 ≠ pins.d5
  d4D6 : pins.d4 ≠ pins.d6
  d4D7 : pins.d4 ≠ pins.d7
  d5D6 : pins.d5 ≠ pins.d6
  d5D7 : pins.d5 ≠ pins.d7
  d6D7 : pins.d6 ≠ pins.d7

theorem Valid.apart {pins : Pins} (valid : pins.Valid) : pins.Apart := by
  have distinct := valid.distinct
  simp only [toList, List.nodup_cons, List.mem_cons, List.not_mem_nil,
    or_false, not_or] at distinct
  obtain ⟨⟨rsE, rsD4, rsD5, rsD6, rsD7⟩, ⟨eD4, eD5, eD6, eD7⟩,
    ⟨d4D5, d4D6, d4D7⟩, ⟨d5D6, d5D7⟩, d6D7, -⟩ := distinct
  exact
    { rsE, rsD4, rsD5, rsD6, rsD7, eD4, eD5, eD6, eD7, d4D5, d4D6, d4D7,
      d5D6, d5D7, d6D7 }

theorem Valid.inWord {pins : Pins} (valid : pins.Valid) {pin : UInt8}
    (member : pin ∈ pins.toList) : pin.toNat < 32 :=
  Nat.lt_trans (valid.inPort pin member) (by decide)

end Pins

def pulseAt (pins : Pins) (latch : UInt32) : Pulse where
  mode := if Port.isSet latch pins.rs then .character else .instruction
  nibble := Fin.ofNat 16
    (8 * (Port.isSet latch pins.d7).toNat + 4 * (Port.isSet latch pins.d6).toNat +
      2 * (Port.isSet latch pins.d5).toNat + (Port.isSet latch pins.d4).toNat)

/-- The falling edges of E in a list of accesses, latest access first. -/
def fallingEdges (pins : Pins) : List (UInt32 × UInt32) → List Pulse
  | [] => []
  | [_] => []
  | new :: old :: rest =>
      fallingEdges pins (old :: rest) ++
        if Port.isSet old.2 pins.e ∧ ¬Port.isSet new.2 pins.e then
          [pulseAt pins new.2]
        else []

/-- The pulses the display sees while these bytes are written. -/
def driven (pins : Pins) (writes : List Write) (port : Port) : List Pulse :=
  fallingEdges pins
    (writeAll pins writes { port with accesses := [] }).accesses

def pulsesOf (write : Write) : List Pulse :=
  [⟨write.mode, upper write.byte⟩, ⟨write.mode, lower write.byte⟩]

@[simp] theorem join_upper_lower (byte : UInt8) :
    join (upper byte) (lower byte) = byte := by
  apply UInt8.toNat_inj.mp
  have bound := byte.toNat_lt
  simp only [upper, lower, join, UInt8.toNat_ofNat']
  omega

/-- The log ends with the state the port is in. -/
def Logged (port : Port) : Prop :=
  ∀ access ∈ port.accesses.head?, access = (port.direction, port.latch)

theorem logged_setPinState (port : Port) (pin : UInt8) (state : QmGpioState) :
    Logged (port.setPinState pin state) := by
  cases state <;> simp [Logged, Port.setPinState, Port.record]

section Edges

variable {pins : Pins} {port : Port}

/-- One register access adds at most one falling edge. -/
theorem fallingEdges_setPinState (logged : Logged port) (pin : UInt8)
    (state : QmGpioState) :
    fallingEdges pins (port.setPinState pin state).accesses =
      fallingEdges pins port.accesses ++
        if port.accesses ≠ [] ∧ Port.isSet port.latch pins.e ∧
            ¬Port.isSet (port.setPinState pin state).latch pins.e then
          [pulseAt pins (port.setPinState pin state).latch]
        else [] := by
  have pushed : (port.setPinState pin state).accesses =
      (port.direction, (port.setPinState pin state).latch) ::
        port.accesses := by
    cases state <;> rfl
  rw [pushed]
  cases log : port.accesses with
  | nil => simp [fallingEdges]
  | cons head rest =>
      have current : head = (port.direction, port.latch) :=
        logged head (by rw [log]; rfl)
      rw [fallingEdges, current]
      simp

theorem fallingEdges_of_other (logged : Logged port)
    {pin : UInt8} (inPort : pin.toNat < 32) (other : pins.e ≠ pin)
    (state : QmGpioState) :
    fallingEdges pins (port.setPinState pin state).accesses =
      fallingEdges pins port.accesses := by
  rw [fallingEdges_setPinState logged, Port.isSet_latch_setPinState inPort,
    if_neg other]
  simp

theorem isSet_setNibble (valid : pins.Valid) (d7 d6 d5 d4 : QmGpioState)
    (other : UInt8) :
    Port.isSet (setNibble pins d7 d6 d5 d4 port).latch other =
      if other = pins.d4 then Port.isHigh d4
      else if other = pins.d5 then Port.isHigh d5
      else if other = pins.d6 then Port.isHigh d6
      else if other = pins.d7 then Port.isHigh d7
      else Port.isSet port.latch other := by
  have d4In : pins.d4 ∈ pins.toList := by simp [Pins.toList]
  have d5In : pins.d5 ∈ pins.toList := by simp [Pins.toList]
  have d6In : pins.d6 ∈ pins.toList := by simp [Pins.toList]
  have d7In : pins.d7 ∈ pins.toList := by simp [Pins.toList]
  rw [setNibble, Port.isSet_latch_setPinState (valid.inWord d4In),
    Port.isSet_latch_setPinState (valid.inWord d5In),
    Port.isSet_latch_setPinState (valid.inWord d6In),
    Port.isSet_latch_setPinState (valid.inWord d7In)]

theorem fallingEdges_setNibble (valid : pins.Valid) (logged : Logged port)
    (d7 d6 d5 d4 : QmGpioState) :
    fallingEdges pins (setNibble pins d7 d6 d5 d4 port).accesses =
        fallingEdges pins port.accesses ∧
      Logged (setNibble pins d7 d6 d5 d4 port) := by
  have apart := valid.apart
  have d4In : pins.d4 ∈ pins.toList := by simp [Pins.toList]
  have d5In : pins.d5 ∈ pins.toList := by simp [Pins.toList]
  have d6In : pins.d6 ∈ pins.toList := by simp [Pins.toList]
  have d7In : pins.d7 ∈ pins.toList := by simp [Pins.toList]
  refine ⟨?_, logged_setPinState _ _ _⟩
  rw [setNibble,
    fallingEdges_of_other (logged_setPinState _ _ _) (valid.inWord d4In)
      apart.eD4,
    fallingEdges_of_other (logged_setPinState _ _ _) (valid.inWord d5In)
      apart.eD5,
    fallingEdges_of_other (logged_setPinState _ _ _) (valid.inWord d6In)
      apart.eD6,
    fallingEdges_of_other logged (valid.inWord d7In) apart.eD7]

theorem isSet_pulseEnable (valid : pins.Valid) (other : UInt8) :
    Port.isSet (pulseEnable pins port).latch other =
      if other = pins.e then false else Port.isSet port.latch other := by
  have inPort : pins.e.toNat < 32 := valid.inWord (by simp [Pins.toList])
  rw [pulseEnable, Port.isSet_latch_setPinState inPort,
    Port.isSet_latch_setPinState inPort]
  by_cases same : other = pins.e <;> simp [same, Port.isHigh]

theorem pulseAt_pulseEnable (valid : pins.Valid) :
    pulseAt pins (pulseEnable pins port).latch = pulseAt pins port.latch := by
  have apart := valid.apart
  simp only [pulseAt, isSet_pulseEnable valid, if_neg apart.rsE,
    if_neg apart.eD4.symm, if_neg apart.eD5.symm, if_neg apart.eD6.symm,
    if_neg apart.eD7.symm]

/-- Raising and lowering E is one pulse, whatever E was before. -/
theorem fallingEdges_pulseEnable (valid : pins.Valid) (logged : Logged port) :
    fallingEdges pins (pulseEnable pins port).accesses =
        fallingEdges pins port.accesses ++ [pulseAt pins port.latch] ∧
      Logged (pulseEnable pins port) := by
  have inPort : pins.e.toNat < 32 := valid.inWord (by simp [Pins.toList])
  refine ⟨?_, logged_setPinState _ _ _⟩
  have raised : (port.setPinState pins.e .high).accesses ≠ [] := by
    simp [Port.setPinState, Port.record]
  have lowered := @pulseAt_pulseEnable pins port valid
  rw [pulseEnable] at lowered ⊢
  rw [fallingEdges_setPinState (logged_setPinState _ _ _),
    fallingEdges_setPinState logged, lowered,
    Port.isSet_latch_setPinState inPort, Port.isSet_latch_setPinState inPort]
  simp [raised, Port.isHigh]

theorem isSet_rs_setNibble (valid : pins.Valid) (d7 d6 d5 d4 : QmGpioState) :
    Port.isSet (setNibble pins d7 d6 d5 d4 port).latch pins.rs =
      Port.isSet port.latch pins.rs := by
  have apart := valid.apart
  rw [isSet_setNibble valid, if_neg apart.rsD4, if_neg apart.rsD5,
    if_neg apart.rsD6, if_neg apart.rsD7]

/-- The lines carry the four bits they were set to. -/
theorem pulseAt_setNibble (valid : pins.Valid) (d7 d6 d5 d4 : QmGpioState) :
    pulseAt pins (setNibble pins d7 d6 d5 d4 port).latch =
      { mode := if Port.isSet port.latch pins.rs then .character
          else .instruction
        nibble := Fin.ofNat 16 (8 * (Port.isHigh d7).toNat +
          4 * (Port.isHigh d6).toNat + 2 * (Port.isHigh d5).toNat +
          (Port.isHigh d4).toNat) } := by
  have apart := valid.apart
  simp only [pulseAt, isSet_rs_setNibble valid]
  simp only [isSet_setNibble valid, if_true, if_neg apart.d4D5.symm,
    if_neg apart.d4D6.symm, if_neg apart.d4D7.symm, if_neg apart.d5D6.symm,
    if_neg apart.d5D7.symm, if_neg apart.d6D7.symm]

theorem isHigh_bitState (byte : UInt8) (bit : Fin 8) :
    (Port.isHigh (bitState byte bit)).toNat =
      byte.toNat / 2 ^ bit.val % 2 := by
  rw [← Nat.toNat_testBit, bitState]
  split
  next set => rw [set]; rfl
  next clear => rw [Bool.not_eq_true] at clear; rw [clear]; rfl

theorem upper_eq (byte : UInt8) :
    Fin.ofNat 16 (8 * (Port.isHigh (bitState byte 7)).toNat +
        4 * (Port.isHigh (bitState byte 6)).toNat +
        2 * (Port.isHigh (bitState byte 5)).toNat +
        (Port.isHigh (bitState byte 4)).toNat) = upper byte := by
  have bound := byte.toNat_lt
  apply Fin.ext
  simp only [isHigh_bitState, upper, Fin.val_ofNat]
  norm_num
  omega

theorem lower_eq (byte : UInt8) :
    Fin.ofNat 16 (8 * (Port.isHigh (bitState byte 3)).toNat +
        4 * (Port.isHigh (bitState byte 2)).toNat +
        2 * (Port.isHigh (bitState byte 1)).toNat +
        (Port.isHigh (bitState byte 0)).toNat) = lower byte := by
  apply Fin.ext
  simp only [isHigh_bitState, lower, Fin.val_ofNat]
  norm_num
  omega

theorem isSet_rs_pulseEnable (valid : pins.Valid) :
    Port.isSet (pulseEnable pins port).latch pins.rs =
      Port.isSet port.latch pins.rs := by
  rw [isSet_pulseEnable valid, if_neg valid.apart.rsE]

/-- One nibble and its pulse. -/
theorem fallingEdges_nibble (valid : pins.Valid) (logged : Logged port)
    {mode : Mode} (selected : Port.isSet port.latch pins.rs =
      Port.isHigh (rsState mode)) (d7 d6 d5 d4 : QmGpioState) :
    let after := pulseEnable pins (setNibble pins d7 d6 d5 d4 port)
    fallingEdges pins after.accesses = fallingEdges pins port.accesses ++
        [⟨mode, Fin.ofNat 16 (8 * (Port.isHigh d7).toNat +
          4 * (Port.isHigh d6).toNat + 2 * (Port.isHigh d5).toNat +
          (Port.isHigh d4).toNat)⟩] ∧
      Logged after ∧
      Port.isSet after.latch pins.rs = Port.isHigh (rsState mode) := by
  intro after
  obtain ⟨settled, settledLogged⟩ :=
    fallingEdges_setNibble valid logged d7 d6 d5 d4
  obtain ⟨pulsed, pulsedLogged⟩ := fallingEdges_pulseEnable valid settledLogged
  have named : (if Port.isHigh (rsState mode) = true then Mode.character
      else .instruction) = mode := by
    cases mode <;> rfl
  refine ⟨?_, pulsedLogged, ?_⟩
  · rw [pulsed, settled, pulseAt_setNibble valid, selected, named]
  · rw [isSet_rs_pulseEnable valid, isSet_rs_setNibble valid, selected]

/-- A byte crosses the four lines as its two nibbles. -/
theorem fallingEdges_writeByte (valid : pins.Valid) (logged : Logged port)
    (write : Write) :
    fallingEdges pins (writeByte pins write port).accesses =
        fallingEdges pins port.accesses ++ pulsesOf write ∧
      Logged (writeByte pins write port) := by
  have inPort : pins.rs.toNat < 32 := valid.inWord (by simp [Pins.toList])
  have chosen : Port.isSet
      (port.setPinState pins.rs (rsState write.mode)).latch pins.rs =
        Port.isHigh (rsState write.mode) := by
    rw [Port.isSet_latch_setPinState inPort, if_pos rfl]
  obtain ⟨first, firstLogged, kept⟩ := fallingEdges_nibble valid
    (logged_setPinState port pins.rs (rsState write.mode)) chosen
    (bitState write.byte 7) (bitState write.byte 6) (bitState write.byte 5)
    (bitState write.byte 4)
  obtain ⟨second, secondLogged, -⟩ := fallingEdges_nibble valid firstLogged kept
    (bitState write.byte 3) (bitState write.byte 2) (bitState write.byte 1)
    (bitState write.byte 0)
  rw [lower_eq, first, upper_eq,
    fallingEdges_of_other logged inPort valid.apart.rsE.symm,
    List.append_assoc] at second
  exact ⟨second, secondLogged⟩

theorem fallingEdges_writeAll (valid : pins.Valid) (logged : Logged port)
    (writes : List Write) :
    fallingEdges pins (writeAll pins writes port).accesses =
      fallingEdges pins port.accesses ++ writes.flatMap pulsesOf := by
  induction writes generalizing port with
  | nil => simp [writeAll]
  | cons write writes induction =>
      obtain ⟨pulses, stillLogged⟩ := fallingEdges_writeByte valid logged write
      have rest := induction stillLogged
      rw [pulses, List.append_assoc] at rest
      exact rest

end Edges

/-- The display is shown two pulses for every byte, and no other. -/
theorem driven_eq {pins : Pins} (valid : pins.Valid) (writes : List Write)
    (port : Port) : driven pins writes port = writes.flatMap pulsesOf := by
  have logged : Logged { port with accesses := [] } := by
    simp [Logged]
  rw [driven, fallingEdges_writeAll valid logged]
  rfl

end HD44780

end QuarkMeteoStation
