import Mathlib.Data.Nat.Bitwise
import QuarkMeteoStation.HD44780.Pulses
import QuarkMeteoStation.Library.Machine

namespace QuarkMeteoStation

open Library

/-! The display's side of the link. In four-bit mode every other pulse
completes a byte, and nothing on the lines tells which. -/

namespace HD44780

inductive Interface
  | eightBit
  | expecting
  | pending (high : Nibble)
  deriving DecidableEq, Repr

namespace Interface

/-- The mode a function set selects; no other byte selects one. -/
def selected (mode : Mode) (high : Nibble) : Option Interface :=
  match mode with
  | .character => none
  | .instruction =>
      if high = 0b0011 then some eightBit
      else if high = 0b0010 then some expecting
      else none

/-- A pulse comes with whatever the four undriven lines show. -/
def next (interface : Interface) (input : Pulse × Nibble) : Interface :=
  let (pulse, _) := input
  match interface with
  | eightBit => (selected pulse.mode pulse.nibble).getD eightBit
  | expecting => pending pulse.nibble
  | pending high => (selected pulse.mode high).getD expecting

def received (interface : Interface) (input : Pulse × Nibble) : Option Write :=
  let (pulse, undriven) := input
  match interface with
  | eightBit => some ⟨join pulse.nibble undriven, pulse.mode⟩
  | expecting => none
  | pending high => some ⟨join high pulse.nibble, pulse.mode⟩

def machine : Machine Interface (Pulse × Nibble) Write where
  start := fun _ => True
  step := next
  output := received

/-- Where a number of pulses lead, whatever the undriven lines show. -/
def follow (interface : Interface) (pulses : List Pulse) : Interface :=
  pulses.foldl (fun interface pulse => interface.next (pulse, 0)) interface

theorem next_undriven (interface : Interface) (pulse : Pulse)
    (undriven other : Nibble) :
    interface.next (pulse, undriven) = interface.next (pulse, other) := by
  cases interface <;> rfl

theorem exec_eq_follow (interface : Interface)
    (inputs : List (Pulse × Nibble)) :
    machine.exec interface inputs = interface.follow (inputs.map Prod.fst) := by
  induction inputs generalizing interface with
  | nil => rfl
  | cons input inputs induction =>
      rw [Machine.exec_cons, induction, List.map_cons]
      exact congrArg (fun later => follow later (inputs.map Prod.fst))
        (next_undriven interface input.1 input.2 0)

theorem follow_append (interface : Interface) (first second : List Pulse) :
    interface.follow (first ++ second) = (interface.follow first).follow second :=
  List.foldl_append

def afterWrite (write : Write) : Interface :=
  (selected write.mode (upper write.byte)).getD expecting

theorem follow_expecting (write : Write) :
    expecting.follow (pulsesOf write) = afterWrite write := rfl

end Interface

open Interface

structure Config.Valid (config : Config) : Prop where
  pins : config.pins.Valid
  entryModeFlags : config.entryModeFlags.toNat ≤ 3
  onOffFlags : config.onOffFlags.toNat ≤ 7

theorem Config.configured_valid : Config.configured.Valid where
  pins := ⟨by decide, by decide +kernel⟩
  entryModeFlags := by decide
  onOffFlags := by decide

/-- The display ends the initialisation in four-bit mode and then receives
exactly the bytes written, whatever its undriven lines show. -/
def Linked (config : Config) (port : Port) (interface : Interface)
    (calls : List Write) : Prop :=
  ∀ initInputs callInputs : List (Pulse × Nibble),
    initInputs.map Prod.fst = driven config.pins (init config) port →
    callInputs.map Prod.fst =
      driven config.pins calls (writeAll config.pins (init config) port) →
    machine.exec interface initInputs = .expecting ∧
      machine.trace (machine.exec interface initInputs) callInputs = calls

/-- An instruction that takes the display out of four-bit mode. -/
def SelectsEightBit (write : Write) : Prop :=
  selected write.mode (upper write.byte) = some .eightBit

instance (write : Write) : Decidable (SelectsEightBit write) :=
  inferInstanceAs (Decidable (_ = _))

theorem afterWrite_of_not_selects {write : Write}
    (fourBit : ¬SelectsEightBit write) : afterWrite write = .expecting := by
  unfold SelectsEightBit at fourBit
  unfold afterWrite
  cases mode : write.mode with
  | character => rfl
  | instruction =>
      rw [mode] at fourBit
      unfold selected at fourBit ⊢
      split <;> simp_all
      split <;> rfl

theorem trace_expecting {calls : List Write}
    (fourBit : ∀ write ∈ calls.dropLast, ¬SelectsEightBit write)
    (inputs : List (Pulse × Nibble))
    (pulses : inputs.map Prod.fst = calls.flatMap pulsesOf) :
    machine.trace .expecting inputs = calls := by
  induction calls generalizing inputs with
  | nil =>
      rw [List.flatMap_nil, List.map_eq_nil_iff] at pulses
      rw [pulses]
      rfl
  | cons write calls induction =>
      rw [List.flatMap_cons, pulsesOf, List.cons_append, List.cons_append,
        List.nil_append] at pulses
      obtain ⟨⟨_, first⟩, afterFirst, rfl, rfl, rest⟩ :=
        List.map_eq_cons_iff.mp pulses
      obtain ⟨⟨_, second⟩, later, rfl, rfl, remaining⟩ :=
        List.map_eq_cons_iff.mp rest
      have whole : machine.trace .expecting
          ((⟨write.mode, upper write.byte⟩, first) ::
            (⟨write.mode, lower write.byte⟩, second) :: later) =
          ⟨join (upper write.byte) (lower write.byte), write.mode⟩ ::
            machine.trace (afterWrite write) later := rfl
      rw [whole, join_upper_lower, List.cons.injEq]
      refine ⟨rfl, ?_⟩
      cases calls with
      | nil =>
          rw [List.flatMap_nil, List.map_eq_nil_iff] at remaining
          rw [remaining]
          rfl
      | cons next calls =>
          rw [List.dropLast_cons_cons] at fourBit
          rw [afterWrite_of_not_selects (fourBit write List.mem_cons_self)]
          exact induction
            (fun other member => fourBit other (List.mem_cons_of_mem _ member))
            later remaining

theorem follow_expecting_all {writes : List Write}
    (fourBit : ∀ write ∈ writes, ¬SelectsEightBit write) :
    Interface.expecting.follow (writes.flatMap pulsesOf) = .expecting := by
  induction writes with
  | nil => rfl
  | cons write writes induction =>
      rw [List.flatMap_cons, follow_append, follow_expecting,
        afterWrite_of_not_selects (fourBit write List.mem_cons_self)]
      exact induction fun other member =>
        fourBit other (List.mem_cons_of_mem _ member)

/-- Half a byte behind, the display takes the lower nibble of each byte for the
upper one of the next. -/
theorem follow_pending {high : Nibble} (behind : high ≠ 3) (byte : UInt8) :
    (Interface.pending high).follow (pulsesOf (writeCmd byte)) =
      .pending (lower byte) := by
  have resumed : (selected .instruction high).getD .expecting =
      Interface.expecting := by
    simp only [selected, if_neg behind]
    split <;> rfl
  simp only [follow, pulsesOf, writeCmd, List.foldl_cons, List.foldl_nil,
    next, resumed]

theorem follow_pending_all {high : Nibble} (behind : high ≠ 3)
    {bytes : List UInt8} (never : ∀ byte ∈ bytes, lower byte ≠ 3) :
    (Interface.pending high).follow ((bytes.map writeCmd).flatMap pulsesOf) =
      .pending ((bytes.map lower).getLastD high) := by
  induction bytes generalizing high with
  | nil => rfl
  | cons byte bytes induction =>
      rw [List.map_cons, List.flatMap_cons, follow_append,
        follow_pending behind, induction (never byte List.mem_cons_self)
          fun other member => never other (List.mem_cons_of_mem _ member),
        List.map_cons, List.getLastD_cons]

section Init

variable {config : Config}

/-- The instructions that follow the selection of four-bit mode. -/
def settings (config : Config) : List UInt8 :=
  [if config.displayType.typeData.rows = 1 then functionSetCmd ||| oneLine
    else functionSetCmd ||| twoLines,
    displayOnOffCmd ||| config.onOffFlags,
    entryModeSetCmd ||| config.entryModeFlags,
    clearDisplayCmd,
    setDdramAddrCmd]

/-- The first row of every type starts at address zero. -/
theorem clear_eq (config : Config) :
    clear config = [writeCmd clearDisplayCmd, writeCmd setDdramAddrCmd] := by
  unfold clear
  cases config.displayType <;> rfl

theorem init_eq (config : Config) :
    init config = ([0x30, 0x30, 0x30, 0x02] ++ settings config).map writeCmd := by
  simp only [init, clear_eq, settings]
  split <;> rfl

theorem toNat_command {command flags : UInt8} (low : command.toNat < 16)
    (few : flags.toNat < 16) : (command ||| flags).toNat < 16 := by
  rw [UInt8.toNat_or]
  exact Nat.or_lt_two_pow (n := 4) low few

theorem upper_eq_zero {byte : UInt8} (low : byte.toNat < 16) :
    upper byte = 0 :=
  Fin.ext (Nat.div_eq_of_lt low)

theorem command_le (command flags : UInt8) :
    command.toNat ≤ (command ||| flags).toNat := by
  rw [UInt8.toNat_or]
  exact Nat.left_le_or

/-- The flags leave the upper half of their command clear, and its lower half no
less than it was. -/
theorem flagged {command flags : UInt8} (low : command.toNat < 16)
    (few : flags.toNat < 16) :
    upper (command ||| flags) = 0 ∧
      command.toNat ≤ (lower (command ||| flags)).val := by
  have small := toNat_command low few
  refine ⟨upper_eq_zero small, ?_⟩
  have kept := command_le command flags
  simp only [lower]
  omega

/-- What the settings put on the lines: none of their upper halves selects
eight-bit mode, and none of their lower halves would. -/
theorem settings_halves (valid : config.Valid) :
    ∀ byte ∈ settings config, upper byte ≠ 3 ∧ lower byte ≠ 3 := by
  obtain ⟨onOffUpper, onOffLower⟩ :=
    @flagged displayOnOffCmd config.onOffFlags (by decide)
      (Nat.lt_of_le_of_lt valid.onOffFlags (by decide))
  obtain ⟨entryUpper, entryLower⟩ :=
    @flagged entryModeSetCmd config.entryModeFlags (by decide)
      (Nat.lt_of_le_of_lt valid.entryModeFlags (by decide))
  have above {half : Nibble} {command : Nat} (large : 4 ≤ command)
      (most : command ≤ half.val) : half ≠ 3 := by
    rintro rfl
    exact absurd (Nat.le_trans large most) (by decide)
  intro byte member
  simp only [settings, List.mem_cons, List.not_mem_nil, or_false] at member
  rcases member with rfl | rfl | rfl | rfl | rfl
  · split <;> decide
  · exact ⟨by rw [onOffUpper]; decide, above (by decide) onOffLower⟩
  · exact ⟨by rw [entryUpper]; decide, above (by decide) entryLower⟩
  · decide
  · decide

theorem not_selectsEightBit {write : Write} (other : upper write.byte ≠ 3) :
    ¬SelectsEightBit write := by
  unfold SelectsEightBit selected
  cases write.mode with
  | character => simp only [reduceCtorEq, not_false_eq_true]
  | instruction =>
      simp only [if_neg other]
      split <;> simp only [reduceCtorEq, not_false_eq_true, Option.some.injEq]

theorem not_selectsEightBit_of_character {write : Write}
    (character : write.mode = .character) : ¬SelectsEightBit write := by
  unfold SelectsEightBit selected
  rw [character]
  simp only [reduceCtorEq, not_false_eq_true]

/-- Neither memory's addresses select eight-bit mode. -/
theorem not_selectsEightBit_of_address {write : Write}
    (address : setCgramAddrCmd ≤ write.byte) : ¬SelectsEightBit write := by
  apply not_selectsEightBit
  intro same
  have halved : write.byte.toNat / 16 = 3 := congrArg Fin.val same
  have large : 64 ≤ write.byte.toNat := UInt8.le_iff_toNat_le.mp address
  omega

theorem pulses_init (config : Config) :
    (init config).flatMap pulsesOf =
      ([0x30, 0x30, 0x30, 0x02].map writeCmd).flatMap pulsesOf ++
        ((settings config).map writeCmd).flatMap pulsesOf := by
  rw [init_eq, List.map_append, List.flatMap_append]

theorem follow_init (valid : config.Valid) {interface : Interface}
    (inPhase : ∀ high, interface = .pending high → high = 3) :
    interface.follow ((init config).flatMap pulsesOf) = .expecting := by
  have woken : interface.follow
      (([0x30, 0x30, 0x30, 0x02].map writeCmd).flatMap pulsesOf) =
        .expecting := by
    cases interface with
    | eightBit => decide
    | expecting => decide
    | pending high =>
        rw [inPhase high rfl]
        decide
  rw [pulses_init, follow_append, woken]
  apply follow_expecting_all
  intro write member
  obtain ⟨byte, setting, rfl⟩ := List.mem_map.mp member
  exact not_selectsEightBit (settings_halves valid byte setting).1

/-- A display left half way through a byte stays half a byte behind. -/
theorem follow_init_behind (valid : config.Valid) {high : Nibble}
    (behind : high ≠ 3) :
    (Interface.pending high).follow ((init config).flatMap pulsesOf) =
      .pending 0 := by
  have afterWake : ([0x30, 0x30, 0x30, 0x02].map lower).getLastD high = 2 :=
    rfl
  rw [pulses_init, follow_append, follow_pending_all behind (by decide +kernel),
    afterWake, follow_pending_all (by decide) fun byte member =>
      (settings_halves valid byte member).2, settings]
  rfl

end Init

/-- From a display that is not half way through a byte, or half way through one
that starts a function set, every byte arrives as long as no instruction selects
eight-bit mode again. -/
theorem linked_of_inPhase {config : Config} (valid : config.Valid) (port : Port)
    {interface : Interface}
    (inPhase : ∀ high, interface = .pending high → high = 3)
    {calls : List Write}
    (fourBit : ∀ write ∈ calls.dropLast, ¬SelectsEightBit write) :
    Linked config port interface calls := by
  intro initInputs callInputs initPulses callPulses
  rw [driven_eq valid.pins] at initPulses callPulses
  have synchronised : machine.exec interface initInputs = .expecting := by
    rw [exec_eq_follow, initPulses, follow_init valid inPhase]
  refine ⟨synchronised, ?_⟩
  rw [synchronised]
  exact trace_expecting fourBit callInputs callPulses

/-- The station's display, after a byte was interrupted half way. -/
theorem linked_configured :
    Linked .configured ⟨0, 0, 0, fun _ => .low, 0, []⟩ (.pending 3)
      [writeCmd 0x80, writeChar 0x41, writeCmd 0x30] :=
  linked_of_inPhase Config.configured_valid ⟨0, 0, 0, fun _ => .low, 0, []⟩
    (fun _ same => (Interface.pending.inj same).symm) (by decide)

/-- What a link delivers when the undriven lines are low. -/
theorem Linked.quiet {config : Config} (valid : config.Valid) {port : Port}
    {interface : Interface} {calls : List Write}
    (linked : Linked config port interface calls) :
    interface.follow ((init config).flatMap pulsesOf) = .expecting ∧
      machine.trace .expecting
        ((calls.flatMap pulsesOf).map fun pulse => (pulse, 0)) = calls := by
  have shown (pulses : List Pulse) :
      (pulses.map fun pulse => (pulse, (0 : Nibble))).map Prod.fst =
        pulses := by
    rw [List.map_map]
    exact List.map_id pulses
  obtain ⟨synchronised, received⟩ := linked
    (((init config).flatMap pulsesOf).map fun pulse => (pulse, 0))
    ((calls.flatMap pulsesOf).map fun pulse => (pulse, 0))
    (by rw [shown, driven_eq valid.pins])
    (by rw [shown, driven_eq valid.pins])
  rw [synchronised] at received
  rw [exec_eq_follow, shown] at synchronised
  exact ⟨synchronised, received⟩

/-- Interrupted half way through any other byte the display stays out of phase,
and an instruction to leave four-bit mode is obeyed. -/
theorem not_linked_always :
    ¬Linked .configured ⟨0, 0, 0, fun _ => .low, 0, []⟩ (.pending 4) [] ∧
      ¬Linked .configured ⟨0, 0, 0, fun _ => .low, 0, []⟩ .expecting
        [writeCmd 0x30, writeChar 0x41] := by
  refine ⟨fun linked => ?_, fun linked => ?_⟩
  · have synchronised := (linked.quiet Config.configured_valid).1
    rw [follow_init_behind Config.configured_valid (by decide)] at synchronised
    exact Interface.noConfusion synchronised
  · have received := (linked.quiet Config.configured_valid).2
    exact absurd received (by decide)

end HD44780

end QuarkMeteoStation
