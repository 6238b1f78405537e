import QuarkMeteoStation.Library.Machine
import QuarkMeteoStation.Onewire.Script

namespace QuarkMeteoStation

open Library

namespace Onewire

universe u v

/-! The bus between the driver and one device, in ticks of the system clock. The
driver is only ever late, and the device goes by the lengths of the pulses. -/

structure Clock where
  ticksPerUs : Nat
  /-- The least a register access takes. -/
  access : Nat
  /-- How much longer an access or a wait may take. -/
  slack : Nat
  deriving DecidableEq, Repr

def Clock.least (clock : Clock) : Act → Nat
  | .udelay microseconds => clock.ticksPerUs * microseconds
  | _ => clock.access

def Clock.Takes (clock : Clock) (act : Act) (duration : Nat) : Prop :=
  clock.least act ≤ duration ∧ duration ≤ clock.least act + clock.slack

structure Timing where
  /-- When the device looks at the line in a slot that it listens to. -/
  sampleAt : Nat
  /-- How long it holds the line for a zero that it gives. -/
  holdFor : Nat
  slot : Nat
  recovery : Nat
  resetAfter : Nat
  presenceFrom : Nat
  presenceTo : Nat
  sampleAt_le : sampleAt ≤ slot
  holdFor_le : holdFor ≤ slot

/-- Whether a pulse was long enough for the device to follow the next. -/
def Timing.Complete (timing : Timing) (low high : Nat) : Prop :=
  if timing.resetAfter ≤ low then timing.presenceTo + timing.recovery ≤ high
  else timing.recovery ≤ high ∧ timing.slot + timing.recovery ≤ low + high

instance (timing : Timing) (low high : Nat) :
    Decidable (timing.Complete low high) :=
  decidable_of_iff
    (timing.resetAfter ≤ low ∧ timing.presenceTo + timing.recovery ≤ high ∨
      ¬timing.resetAfter ≤ low ∧ timing.recovery ≤ high ∧
        timing.slot + timing.recovery ≤ low + high) (by
    unfold Timing.Complete
    split <;> simp [*])

theorem Timing.Complete.mono {timing : Timing} {low high later : Nat}
    (complete : timing.Complete low high) (le : high ≤ later) :
    timing.Complete low later := by
  unfold Complete at complete ⊢
  split at complete
  next isReset =>
    rw [if_pos isReset]
    omega
  next isSlot =>
    rw [if_neg isSlot]
    omega

/-- A device by the bits that it is given and gives. -/
structure Device (State : Type u) (Occurrence : Type v) where
  reset : State → State
  received : State → Bool → State
  /-- The bit of the next slot, where the device does not listen. -/
  gives : State → Option Bool
  given : State → State
  /-- An edge that came too soon. -/
  confused : State → State
  occur : State → Occurrence → State
  reset_confused : ∀ state, reset (confused state) = reset state

structure Bus (State : Type u) where
  state : State
  direction : PinDir
  /-- How long the driver held the line in the latest pulse. -/
  low : Nat
  /-- How long ago it released it. -/
  high : Nat
  /-- Whether the device gives a zero in this slot. -/
  holds : Bool

inductive Input (Occurrence : Type v)
  | act (act : Act) (duration : Nat)
  | idle (duration : Nat)
  | occurrence (occurrence : Occurrence)

namespace Bus

variable {State : Type u} {Occurrence : Type v}
variable (timing : Timing) (device : Device State Occurrence)

def wait (bus : Bus State) (duration : Nat) : Bus State :=
  match bus.direction with
  | .output => { bus with low := bus.low + duration }
  | .input => { bus with high := bus.high + duration }

def fall (bus : Bus State) : Bus State :=
  let state :=
    if timing.Complete bus.low bus.high then bus.state
    else device.confused bus.state
  { state := state
    direction := .output
    low := 0
    high := 0
    holds := device.gives state = some false }

def rise (bus : Bus State) : Bus State :=
  { bus with
    direction := .input
    state :=
      if timing.resetAfter ≤ bus.low then device.reset bus.state
      else
        match device.gives bus.state with
        | some _ => device.given bus.state
        | none => device.received bus.state (bus.low < timing.sampleAt) }

def level (bus : Bus State) : QmGpioState :=
  match bus.direction with
  | .output => .low
  | .input =>
      if timing.resetAfter ≤ bus.low then
        if timing.presenceFrom ≤ bus.high ∧ bus.high < timing.presenceTo then
          .low
        else .high
      else if bus.holds ∧ bus.low + bus.high < timing.holdFor then .low
      else .high

def act (bus : Bus State) : Act → Bus State
  | .pinSetDirection .output =>
      match bus.direction with
      | .output => bus
      | .input => bus.fall timing device
  | .pinSetDirection .input =>
      match bus.direction with
      | .output => bus.rise timing device
      | .input => bus
  | _ => bus

def step (bus : Bus State) : Input Occurrence → Bus State
  | .act act duration => (bus.wait duration).act timing device act
  | .idle duration => bus.wait duration
  | .occurrence occurrence =>
      { bus with state := device.occur bus.state occurrence }

def sample (bus : Bus State) : Input Occurrence → Option QmGpioState
  | .act .readPin duration => some ((bus.wait duration).level timing)
  | _ => none

def machine : Machine (Bus State) (Input Occurrence) QmGpioState where
  start := fun bus => bus.direction = .input
  step := step timing device
  output := sample timing

@[simp] theorem machine_step :
    (machine timing device).step = step timing device := rfl

@[simp] theorem machine_output :
    (machine timing device).output = sample timing := rfl

end Bus

/-- A run of the bus in which the driver performs a script. -/
def Performs (clock : Clock) {Occurrence : Type v} (script : List Act)
    (inputs : List (Input Occurrence)) : Prop :=
  List.Forall₂ (fun act input => ∃ duration, input = .act act duration ∧
    clock.Takes act duration) script inputs

/-- The latest the driver looks at the line after it began a slot to read. -/
def Clock.latestLook (clock : Clock) : Nat :=
  clock.ticksPerUs * 10 + 2 * clock.access + 4 * clock.slack

/-- What the driver's delays ask of a device that is to follow it. -/
structure Compatible (clock : Clock) (timing : Timing) : Prop where
  one : clock.ticksPerUs * 5 + clock.access + 2 * clock.slack <
    timing.sampleAt
  zero : timing.sampleAt ≤ clock.ticksPerUs * 60 + clock.access
  short : clock.ticksPerUs * 60 + clock.access + 2 * clock.slack <
    timing.resetAfter
  slot : timing.slot + timing.recovery ≤
    clock.ticksPerUs * 60 + 2 * clock.access
  /-- The driver gives no time between slots but that of an access. -/
  recovery : timing.recovery ≤ clock.access
  reset : timing.resetAfter ≤ clock.ticksPerUs * 500 + clock.access
  presence : timing.presenceTo + timing.recovery ≤
    clock.ticksPerUs * 500 + 2 * clock.access

section Perform

variable {State : Type u} {Occurrence : Type v}
variable {clock : Clock} {timing : Timing}
variable {device : Device State Occurrence}

/-- The device is between two slots, and will follow the next. -/
structure Settled (clock : Clock) (timing : Timing) (state : State)
    (bus : Bus State) : Prop where
  state : bus.state = state
  direction : bus.direction = .input
  complete : timing.Complete bus.low (bus.high + clock.access)

theorem Settled.fall {state : State} {bus : Bus State}
    (settled : Settled clock timing state bus) {duration : Nat}
    (takes : clock.Takes (.pinSetDirection .output) duration) :
    Bus.step timing device bus (.act (.pinSetDirection .output) duration) =
      ⟨state, .output, 0, 0, device.gives state = some false⟩ := by
  have complete : timing.Complete bus.low (bus.high + duration) :=
    settled.complete.mono (Nat.add_le_add_left takes.1 _)
  simp only [Bus.step, Bus.wait, Bus.act, Bus.fall, settled.direction,
    settled.state, if_pos complete]

theorem Settled.idle {state : State} {bus : Bus State}
    (settled : Settled clock timing state bus) (duration : Nat) :
    Settled clock timing state (bus.wait duration) := by
  refine ⟨?_, ?_, ?_⟩
  · simpa [Bus.wait, settled.direction] using settled.state
  · simp [Bus.wait, settled.direction]
  · simp only [Bus.wait, settled.direction]
    exact settled.complete.mono (by omega)

theorem performs_cons {act : Act} {script : List Act}
    {inputs : List (Input Occurrence)}
    (performs : Performs clock (act :: script) inputs) :
    ∃ duration rest, inputs = .act act duration :: rest ∧
      clock.Takes act duration ∧ Performs clock script rest := by
  cases performs with
  | cons first rest =>
      obtain ⟨duration, rfl, takes⟩ := first
      exact ⟨duration, _, rfl, takes, rest⟩

theorem performs_nil {inputs : List (Input Occurrence)}
    (performs : Performs clock [] inputs) : inputs = [] := by
  cases performs
  rfl

theorem performs_append {first second : List Act}
    {inputs : List (Input Occurrence)}
    (performs : Performs clock (first ++ second) inputs) :
    ∃ earlier later, inputs = earlier ++ later ∧
      Performs clock first earlier ∧ Performs clock second later := by
  induction first generalizing inputs with
  | nil => exact ⟨[], inputs, rfl, .nil, performs⟩
  | cons act script induction =>
      obtain ⟨duration, rest, rfl, takes, performs⟩ :=
        performs_cons performs
      obtain ⟨earlier, later, rfl, begun, done⟩ := induction performs
      exact ⟨_ :: earlier, later, rfl, .cons ⟨duration, rfl, takes⟩ begun,
        done⟩

/-- The driver as late as it may be. -/
def late (clock : Clock) (script : List Act) : List (Input Occurrence) :=
  script.map fun act => .act act (clock.least act + clock.slack)

theorem performs_late (script : List Act) :
    Performs clock script (late clock script : List (Input Occurrence)) := by
  induction script with
  | nil => exact .nil
  | cons act script induction =>
      exact .cons ⟨_, rfl, Nat.le_add_right _ _, le_rfl⟩ induction

/-- A script that does its part from every settled bus. -/
structure Slots (clock : Clock) (timing : Timing)
    (device : Device State Occurrence) (script : List Act) (before : State)
    (after : State) (samples : List QmGpioState) : Prop where
  run : ∀ bus inputs, Settled clock timing before bus →
    Performs clock script inputs →
    Settled clock timing after ((Bus.machine timing device).exec bus inputs) ∧
      (Bus.machine timing device).trace bus inputs = samples

theorem Slots.nil (state : State) :
    Slots clock timing device [] state state [] := by
  refine ⟨fun bus inputs settled performs => ?_⟩
  rw [performs_nil performs]
  exact ⟨settled, rfl⟩

theorem Slots.append {first second : List Act} {before between after : State}
    {earlier later : List QmGpioState}
    (begins : Slots clock timing device first before between earlier)
    (ends : Slots clock timing device second between after later) :
    Slots clock timing device (first ++ second) before after
      (earlier ++ later) := by
  refine ⟨fun bus inputs settled performs => ?_⟩
  obtain ⟨_, _, rfl, begun, done⟩ := performs_append performs
  obtain ⟨middle, begunSamples⟩ := begins.run bus _ settled begun
  obtain ⟨final, doneSamples⟩ := ends.run _ _ middle done
  rw [Machine.exec_append, Machine.trace_append, begunSamples, doneSamples]
  exact ⟨final, rfl⟩

/-- The device listens while it is given these bits. -/
def Listens (device : Device State Occurrence) : State → List Bool → Prop
  | _, [] => True
  | state, bit :: bits =>
      device.gives state = none ∧ Listens device (device.received state bit) bits

/-- These are the bits the device gives next. -/
def Gives (device : Device State Occurrence) : State → List Bool → Prop
  | _, [] => True
  | state, bit :: bits =>
      device.gives state = some bit ∧ Gives device (device.given state) bits

def levelOf (bit : Bool) : QmGpioState :=
  if bit then .high else .low

variable (compatible : Compatible clock timing)

include compatible

theorem slots_writeBit {state : State} (listens : device.gives state = none)
    (bit : Bool) :
    Slots clock timing device (writeBitScript bit) state
      (device.received state bit) [] := by
  refine ⟨fun bus inputs settled performs => ?_⟩
  have short := compatible.short
  have recovery := compatible.recovery
  have slot := compatible.slot
  cases bit with
  | true =>
      obtain ⟨_, _, rfl, fallen, performs⟩ := performs_cons performs
      obtain ⟨held, _, rfl, ⟨heldLeast, heldMost⟩, performs⟩ :=
        performs_cons performs
      obtain ⟨access, _, rfl, ⟨accessLeast, accessMost⟩, performs⟩ :=
        performs_cons performs
      obtain ⟨rest, _, rfl, ⟨restLeast, -⟩, performs⟩ := performs_cons performs
      obtain rfl := performs_nil performs
      have one := compatible.one
      simp only [Clock.least] at heldLeast heldMost accessLeast
      simp only [Clock.least] at accessMost restLeast
      have slotPulse : ¬timing.resetAfter ≤ 0 + held + access := by omega
      have sampled : 0 + held + access < timing.sampleAt := by omega
      simp only [Machine.exec_cons, Machine.exec_nil, Machine.trace_cons,
        Machine.trace_nil, Bus.machine_step, Bus.machine_output,
        settled.fall fallen]
      simp only [Bus.step, Bus.wait, Bus.act, Bus.rise, Bus.sample, listens,
        if_neg slotPulse, sampled, decide_true]
      refine ⟨⟨rfl, rfl, ?_⟩, rfl⟩
      simp only [Timing.Complete, if_neg slotPulse]
      omega
  | false =>
      obtain ⟨_, _, rfl, fallen, performs⟩ := performs_cons performs
      obtain ⟨held, _, rfl, ⟨heldLeast, heldMost⟩, performs⟩ :=
        performs_cons performs
      obtain ⟨access, _, rfl, ⟨accessLeast, accessMost⟩, performs⟩ :=
        performs_cons performs
      obtain rfl := performs_nil performs
      have zero := compatible.zero
      simp only [Clock.least] at heldLeast heldMost accessLeast accessMost
      have slotPulse : ¬timing.resetAfter ≤ 0 + held + access := by omega
      have sampled : ¬0 + held + access < timing.sampleAt := by omega
      simp only [Machine.exec_cons, Machine.exec_nil, Machine.trace_cons,
        Machine.trace_nil, Bus.machine_step, Bus.machine_output,
        settled.fall fallen]
      simp only [Bus.step, Bus.wait, Bus.act, Bus.rise, Bus.sample, listens,
        if_neg slotPulse, sampled, decide_false]
      refine ⟨⟨rfl, rfl, ?_⟩, rfl⟩
      simp only [Timing.Complete, if_neg slotPulse]
      omega

/-- One slot in which the driver reads, by the lengths of its steps. -/
theorem exec_readBit {state : State} {bit : Bool}
    (gives : device.gives state = some bit) {bus : Bus State}
    (settled : Settled clock timing state bus)
    {first held access waited looked rested : Nat}
    (fallen : clock.Takes (.pinSetDirection .output) first)
    (holding : clock.Takes (.udelay 5) held)
    (releasing : clock.Takes (.pinSetDirection .input) access)
    (waiting : clock.Takes (.udelay 5) waited)
    (looking : clock.Takes .readPin looked)
    (resting : clock.Takes (.udelay 50) rested) :
    let inputs : List (Input Occurrence) :=
      [.act (.pinSetDirection .output) first, .act (.udelay 5) held,
        .act (.pinSetDirection .input) access, .act (.udelay 5) waited,
        .act .readPin looked, .act (.udelay 50) rested]
    Settled clock timing (device.given state)
        ((Bus.machine timing device).exec bus inputs) ∧
      (Bus.machine timing device).trace bus inputs =
        [if bit = false ∧ held + access + (waited + looked) < timing.holdFor
          then .low else .high] := by
  have short := compatible.short
  have recovery := compatible.recovery
  have slot := compatible.slot
  simp only [Clock.Takes, Clock.least] at holding releasing waiting looking
  simp only [Clock.Takes, Clock.least] at resting
  have slotPulse : ¬timing.resetAfter ≤ 0 + held + access := by omega
  simp only [Machine.exec_cons, Machine.exec_nil, Machine.trace_cons,
    Machine.trace_nil, Bus.machine_step, Bus.machine_output,
    settled.fall fallen]
  simp only [Bus.step, Bus.wait, Bus.act, Bus.rise, Bus.sample, Bus.level,
    gives, if_neg slotPulse]
  refine ⟨⟨rfl, rfl, ?_⟩, ?_⟩
  · simp only [Timing.Complete, if_neg slotPulse]
    omega
  · simp

theorem slots_readBit (legible : clock.latestLook < timing.holdFor)
    {state : State} {bit : Bool} (gives : device.gives state = some bit) :
    Slots clock timing device readBitScript state (device.given state)
      [levelOf bit] := by
  refine ⟨fun bus inputs settled performs => ?_⟩
  obtain ⟨_, _, rfl, fallen, performs⟩ := performs_cons performs
  obtain ⟨held, _, rfl, holding, performs⟩ := performs_cons performs
  obtain ⟨access, _, rfl, releasing, performs⟩ := performs_cons performs
  obtain ⟨waited, _, rfl, waiting, performs⟩ := performs_cons performs
  obtain ⟨looked, _, rfl, looking, performs⟩ := performs_cons performs
  obtain ⟨_, _, rfl, resting, performs⟩ := performs_cons performs
  obtain rfl := performs_nil performs
  obtain ⟨after, sampled⟩ := exec_readBit compatible gives settled fallen
    holding releasing waiting looking resting
  have early : held + access + (waited + looked) < timing.holdFor := by
    have heldMost := holding.2
    have accessMost := releasing.2
    have waitedMost := waiting.2
    have lookedMost := looking.2
    simp only [Clock.least] at heldMost accessMost waitedMost lookedMost
    rw [Clock.latestLook] at legible
    omega
  refine ⟨after, sampled.trans ?_⟩
  cases bit <;> simp [levelOf, early]

theorem slots_writeBits (bits : List Bool) {state : State}
    (listens : Listens device state bits) :
    Slots clock timing device (bits.flatMap writeBitScript) state
      (bits.foldl device.received state) [] := by
  induction bits generalizing state with
  | nil => exact Slots.nil state
  | cons bit bits induction =>
      exact (slots_writeBit compatible listens.1 bit).append
        (induction listens.2)

theorem slots_readBits (legible : clock.latestLook < timing.holdFor)
    (bits : List Bool) {state : State} (gives : Gives device state bits) :
    Slots clock timing device
      (List.replicate bits.length readBitScript).flatten state
      (device.given^[bits.length] state) (bits.map levelOf) := by
  induction bits generalizing state with
  | nil => exact Slots.nil state
  | cons bit bits induction =>
      exact (slots_readBit compatible legible gives.1).append
        (induction gives.2)

/-- Too late, the driver reads nothing but ones. -/
theorem exec_late_readBits (illegible : timing.holdFor ≤ clock.latestLook)
    (bits : List Bool) {state : State} (gives : Gives device state bits)
    {bus : Bus State} (settled : Settled clock timing state bus) :
    let inputs : List (Input Occurrence) :=
      late clock (List.replicate bits.length readBitScript).flatten
    Settled clock timing (device.given^[bits.length] state)
        ((Bus.machine timing device).exec bus inputs) ∧
      (Bus.machine timing device).trace bus inputs =
        List.replicate bits.length .high := by
  induction bits generalizing state bus with
  | nil => exact ⟨settled, rfl⟩
  | cons bit bits induction =>
      have takes (act : Act) :
          clock.Takes act (clock.least act + clock.slack) :=
        ⟨Nat.le_add_right _ _, le_rfl⟩
      obtain ⟨after, sampled⟩ := exec_readBit compatible gives.1 settled
        (takes _) (takes _) (takes _) (takes _) (takes _) (takes _)
      obtain ⟨final, samples⟩ := induction gives.2 after
      have tooLate : ¬(bit = false ∧
          clock.least (.udelay 5) + clock.slack +
            (clock.least (.pinSetDirection .input) + clock.slack) +
            (clock.least (.udelay 5) + clock.slack +
              (clock.least .readPin + clock.slack)) < timing.holdFor) := by
        rw [Clock.latestLook] at illegible
        simp only [Clock.least]
        omega
      rw [if_neg tooLate] at sampled
      simp only [List.length_cons, List.replicate_succ, List.flatten_cons,
        late, List.map_append, Machine.exec_append, Machine.trace_append]
      refine ⟨final, ?_⟩
      exact (congrArg₂ (· ++ ·) sampled samples).trans rfl

omit compatible in
theorem fall_of_input {bus : Bus State} (input : bus.direction = .input)
    (duration : Nat) :
    ∃ state holds, (state = bus.state ∨ state = device.confused bus.state) ∧
      Bus.step timing device bus (.act (.pinSetDirection .output) duration) =
        ⟨state, .output, 0, 0, holds⟩ := by
  simp only [Bus.step, Bus.wait, Bus.act, Bus.fall, input]
  refine ⟨_, _, ?_, rfl⟩
  split
  · exact Or.inl rfl
  · exact Or.inr rfl

/-- A reset finds the device in whatever state. -/
theorem exec_reset {bus : Bus State} (input : bus.direction = .input)
    {inputs : List (Input Occurrence)}
    (performs : Performs clock resetScript inputs) :
    Settled clock timing (device.reset bus.state)
        ((Bus.machine timing device).exec bus inputs) ∧
      ∃ presence, (Bus.machine timing device).trace bus inputs =
        [presence] := by
  have reset := compatible.reset
  have presence := compatible.presence
  obtain ⟨first, _, rfl, -, performs⟩ := performs_cons performs
  obtain ⟨held, _, rfl, ⟨heldLeast, -⟩, performs⟩ := performs_cons performs
  obtain ⟨access, _, rfl, ⟨accessLeast, -⟩, performs⟩ :=
    performs_cons performs
  obtain ⟨waited, _, rfl, ⟨waitedLeast, -⟩, performs⟩ :=
    performs_cons performs
  obtain ⟨looked, _, rfl, ⟨lookedLeast, -⟩, performs⟩ :=
    performs_cons performs
  obtain ⟨rested, _, rfl, ⟨restedLeast, -⟩, performs⟩ :=
    performs_cons performs
  obtain rfl := performs_nil performs
  simp only [Clock.least] at heldLeast accessLeast waitedLeast lookedLeast
  simp only [Clock.least] at restedLeast
  have resetPulse : timing.resetAfter ≤ 0 + held + access := by omega
  obtain ⟨state, holds, confused, fallen⟩ :=
    @fall_of_input _ _ timing device bus input first
  have recovered : device.reset state = device.reset bus.state := by
    rcases confused with rfl | rfl
    · rfl
    · exact device.reset_confused bus.state
  simp only [Machine.exec_cons, Machine.exec_nil, Machine.trace_cons,
    Machine.trace_nil, Bus.machine_step, Bus.machine_output, fallen]
  simp only [Bus.step, Bus.wait, Bus.act, Bus.rise, Bus.sample, resetPulse,
    if_true]
  refine ⟨⟨recovered, rfl, ?_⟩, ⟨_, rfl⟩⟩
  simp only [Timing.Complete, if_pos resetPulse]
  omega

end Perform

end Onewire

end QuarkMeteoStation
