import Mathlib.Algebra.Order.Ring.Nat
import QuarkMeteoStation.GPIO

namespace QuarkMeteoStation

/-! `onewire.c`: the bit-banged 1-Wire master. -/

namespace Onewire

structure Config where
  onewirePin : UInt8

inductive Detect
  | present
  | absent
  deriving DecidableEq, Repr

inductive PinDir
  | output
  | input
  deriving DecidableEq, Repr

def pinSetDirection (config : Config) (direction : PinDir) (port : Port) :
    Port :=
  match direction with
  | .output => port.setOutput config.onewirePin
  | .input => port.setInput config.onewirePin

def init (config : Config) (port : Port) : Port :=
  (pinSetDirection config .input port).clearPin config.onewirePin

def reset (config : Config) (port : Port) : Detect × Port :=
  let port := pinSetDirection config .output port
  let port := pinSetDirection config .input port
  let (response, port) := port.readPin
  (if response = .low then .present else .absent, port)

def writeByteLoop (config : Config) : Nat → UInt8 → Port → Port
  | 0, _, port => port
  | remaining + 1, byte, port =>
      let port := pinSetDirection config .output port
      -- the two branches of the source differ in their delays only
      let port := pinSetDirection config .input port
      writeByteLoop config remaining (byte >>> 1) port

def writeByte (config : Config) (byte : UInt8) (port : Port) : Port :=
  writeByteLoop config 8 byte port

def readByteLoop (config : Config) : Nat → UInt8 → Port → UInt8 × Port
  | 0, byte, port => (byte, port)
  | remaining + 1, byte, port =>
      let byte := byte >>> 1
      let port := pinSetDirection config .output port
      let port := pinSetDirection config .input port
      let (response, port) := port.readPin
      let byte := if response = .high then byte ||| 0x80 else byte
      readByteLoop config remaining byte port

def readByte (config : Config) (port : Port) : UInt8 × Port :=
  readByteLoop config 8 0 port

def bitLevel (value : Nat) (slot : Nat) : QmGpioState :=
  if value.testBit slot then .high else .low

@[simp] theorem levels_pinSetDirection (config : Config) (direction : PinDir)
    (port : Port) : (pinSetDirection config direction port).levels =
      port.levels := by
  cases direction <;> rfl

@[simp] theorem reads_pinSetDirection (config : Config) (direction : PinDir)
    (port : Port) : (pinSetDirection config direction port).reads =
      port.reads := by
  cases direction <;> rfl

theorem writeByteLoop_reads (config : Config) (remaining : Nat) (byte : UInt8)
    (port : Port) :
    (writeByteLoop config remaining byte port).levels = port.levels ∧
      (writeByteLoop config remaining byte port).reads = port.reads := by
  induction remaining generalizing byte port with
  | zero => exact ⟨rfl, rfl⟩
  | succ remaining induction =>
      obtain ⟨levels, reads⟩ := induction (byte >>> 1)
        (pinSetDirection config .input (pinSetDirection config .output port))
      exact ⟨by simpa [writeByteLoop] using levels,
        by simpa [writeByteLoop] using reads⟩

private theorem shift_in (byte : UInt8) (bit : Bool) :
    (if (if bit then QmGpioState.high else .low) = .high then
        (byte >>> 1) ||| 0x80 else byte >>> 1).toNat =
      byte.toNat / 2 + bit.toNat * 128 := by
  have shifted : (byte >>> 1).toNat = byte.toNat / 2 := by
    simp [Nat.shiftRight_eq_div_pow]
  have half : byte.toNat / 2 < 2 ^ 7 := by
    have := byte.toNat_lt
    omega
  cases bit with
  | false => simp [shifted]
  | true =>
      have disjoint := Nat.two_pow_add_eq_or_of_lt half 1
      simp only [if_true, UInt8.toNat_or, shifted]
      rw [Nat.or_comm]
      simpa [Nat.add_comm] using disjoint.symm

/-- After `done` slots the byte holds the low `done` bits of the value, moved
to its top. -/
theorem readByteLoop_spec (config : Config) (value : Nat) (remaining : Nat) :
    ∀ (done : Nat) (byte : UInt8) (port : Port), done + remaining = 8 →
      byte.toNat = value % 2 ^ done * 2 ^ remaining →
      (∀ slot < remaining,
        port.levels (port.reads + slot) = bitLevel value (done + slot)) →
      (readByteLoop config remaining byte port).1.toNat = value % 2 ^ 8 ∧
        (readByteLoop config remaining byte port).2.levels = port.levels ∧
        (readByteLoop config remaining byte port).2.reads =
          port.reads + remaining := by
  induction remaining with
  | zero =>
      intro done byte port total assembled transmitted
      have finished : done = 8 := by omega
      subst finished
      exact ⟨by simpa [readByteLoop] using assembled, rfl, rfl⟩
  | succ remaining induction =>
      intro done byte port total assembled transmitted
      have level : port.levels port.reads = bitLevel value done := by
        simpa using transmitted 0 (by omega)
      have power : 128 = 2 ^ done * 2 ^ remaining := by
        rw [← Nat.pow_add, show done + remaining = 7 by omega]
      have halved : byte.toNat / 2 = value % 2 ^ done * 2 ^ remaining := by
        rw [assembled, Nat.pow_succ, ← Nat.mul_assoc]
        omega
      have next : (if bitLevel value done = .high then
          (byte >>> 1) ||| 0x80 else byte >>> 1).toNat =
            value % 2 ^ (done + 1) * 2 ^ remaining := by
        unfold bitLevel
        rw [shift_in byte (value.testBit done), halved, Nat.mod_pow_succ,
          ← Nat.toNat_testBit, power, Nat.add_mul, Nat.mul_left_comm,
          Nat.mul_assoc (2 ^ done)]
      obtain ⟨result, levels, reads⟩ := induction (done + 1) _
        (((pinSetDirection config .input
          (pinSetDirection config .output port)).readPin).2) (by omega) next
        (by
          intro slot bound
          have later := transmitted (slot + 1) (by omega)
          simpa [Port.readPin, Nat.add_assoc, Nat.add_comm 1 slot] using later)
      simp only [Port.readPin, levels_pinSetDirection, reads_pinSetDirection]
        at result levels reads
      simp only [readByteLoop, Port.readPin, levels_pinSetDirection,
        reads_pinSetDirection, level]
      exact ⟨result, levels, by rw [reads]; omega⟩

theorem readByte_spec (config : Config) (value : Nat) (port : Port)
    (transmitted : ∀ slot < 8,
      port.levels (port.reads + slot) = bitLevel value slot) :
    (readByte config port).1.toNat = value % 256 ∧
      (readByte config port).2.levels = port.levels ∧
      (readByte config port).2.reads = port.reads + 8 :=
  readByteLoop_spec config value 8 0 0 port rfl (by simp [Nat.mod_one])
    (by simpa using transmitted)

end Onewire

end QuarkMeteoStation
