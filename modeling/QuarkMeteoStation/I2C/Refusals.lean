import QuarkMeteoStation.I2C.Registers

namespace QuarkMeteoStation

open Library

namespace I2C

universe u

/-! Bytes that the slave refuses: where a call comes to know of it, and what an
access that reports no error is worth. -/

/-- The points after which a call still looks at the abort source. -/
def Point.heeds : Point → Bool
  | testWriteLen | awaitNotFull | writeData | awaitEmpty | testAborted
  | testReadLen | writeCommand | awaitData | testDataAborted | readData => true
  | _ => false

def Move.answered : Move → Move
  | driver => driver
  | controller _ => controller true

section Refusals

variable {Memory : Type u} (slave : Slave Memory)

/-- Whatever is refused, is refused where the call still looks for it. -/
def Heeded : Exchange Memory → List Move → Prop
  | _, [] => True
  | exchange, move :: rest =>
      ((machine slave).output exchange move = some .refused →
          exchange.master.point.heeds = true) ∧
        Heeded ((machine slave).step exchange move) rest

instance Heeded.decide : (exchange : Exchange Memory) → (moves : List Move) →
    Decidable (Heeded slave exchange moves)
  | _, [] => isTrue trivial
  | exchange, move :: rest =>
      have := Heeded.decide ((machine slave).step exchange move) rest
      inferInstanceAs (Decidable (_ ∧ _))

variable {slave} {size : Nat} {exchange : Exchange Memory}

theorem heeded_of_unrefused {moves : List Move}
    (unrefused : .refused ∉ (machine slave).trace exchange moves) :
    Heeded slave exchange moves := by
  induction moves generalizing exchange with
  | nil => trivial
  | cons move rest induction =>
      rw [Machine.trace_cons, List.mem_append, not_or] at unrefused
      refine ⟨fun refused => ?_, induction unrefused.2⟩
      rw [refused] at unrefused
      exact absurd List.mem_cons_self unrefused.1

theorem Controller.event_acked (controller : Controller Memory) :
    controller.event slave true ≠ some .refused := by
  unfold Controller.event
  cases controller.stopping with
  | true => simp
  | false =>
      cases controller.shift with
      | none => simp
      | some command =>
          by_cases same : controller.direction = some command.direction
          · cases command <;> simp [same]
          · simp [same]

theorem heeded_of_acked {moves : List Move} (acked : Acked moves) :
    Heeded slave exchange moves := by
  induction moves generalizing exchange with
  | nil => trivial
  | cons move rest induction =>
      refine ⟨fun refused => ?_, induction fun other member =>
        acked other (List.mem_cons_of_mem _ member)⟩
      cases move with
      | driver => simp [machine] at refused
      | controller answer =>
          cases answer with
          | true =>
              exact absurd refused (Controller.event_acked exchange.controller)
          | false => exact absurd rfl (acked _ List.mem_cons_self)

theorem Controller.advance_answered {controller : Controller Memory}
    (unrefused : controller.event slave false ≠ some .refused) :
    controller.advance slave true = controller.advance slave false ∧
      controller.event slave true = controller.event slave false := by
  unfold Controller.event at unrefused ⊢
  unfold Controller.advance
  cases stopping : controller.stopping with
  | true => exact ⟨rfl, rfl⟩
  | false =>
      cases shifted : controller.shift with
      | none => exact ⟨rfl, rfl⟩
      | some command =>
          simp only [stopping, shifted, Bool.false_eq_true, if_false,
            Option.map_some] at unrefused ⊢
          unfold Controller.execute
          by_cases same : controller.direction = some command.direction
          · simp only [if_pos same] at unrefused ⊢
            cases command with
            | write byte stop => exact absurd rfl unrefused
            | read stop => exact ⟨rfl, rfl⟩
          · simp only [if_neg same] at unrefused
            exact absurd rfl unrefused

theorem step_answered {move : Move}
    (unrefused : (machine slave).output exchange move ≠ some .refused) :
    (machine slave).step exchange move.answered =
        (machine slave).step exchange move ∧
      (machine slave).output exchange move.answered =
        (machine slave).output exchange move := by
  cases move with
  | driver => exact ⟨rfl, rfl⟩
  | controller acked =>
      cases acked with
      | true => exact ⟨rfl, rfl⟩
      | false =>
          obtain ⟨advance, event⟩ := Controller.advance_answered unrefused
          refine ⟨?_, event⟩
          exact congrArg (Exchange.mk exchange.master) advance

theorem acked_answered (moves : List Move) :
    Acked (moves.map .answered) := by
  intro move member
  obtain ⟨move, -, rfl⟩ := List.mem_map.mp member
  cases move <;> simp [Move.answered]

/-- A run in which nothing is refused is one in which everything is
acknowledged. -/
theorem run_answered {moves : List Move}
    (unrefused : .refused ∉ (machine slave).trace exchange moves) :
    (machine slave).exec exchange (moves.map .answered) =
        (machine slave).exec exchange moves ∧
      (machine slave).trace exchange (moves.map .answered) =
        (machine slave).trace exchange moves := by
  induction moves generalizing exchange with
  | nil => exact ⟨rfl, rfl⟩
  | cons move rest induction =>
      rw [Machine.trace_cons, List.mem_append, not_or] at unrefused
      have now : (machine slave).output exchange move ≠ some .refused := by
        intro refused
        rw [refused] at unrefused
        exact unrefused.1 List.mem_cons_self
      obtain ⟨step, output⟩ := step_answered now
      obtain ⟨exec, trace⟩ := induction unrefused.2
      rw [List.map_cons, Machine.exec_cons, Machine.exec_cons,
        Machine.trace_cons, Machine.trace_cons, step, output, exec, trace]
      exact ⟨rfl, rfl⟩

/-- The abort source is looked at before the call returns. -/
def Master.Looks (master : Master) : Prop :=
  match master.point with
  | .testWriteLen | .awaitNotFull | .writeData | .awaitEmpty | .testAborted
  | .writeCommand | .awaitData | .testDataAborted => True
  | .testReadLen => 0 < master.len
  | _ => False

/-- The call reports an error, or is about to. -/
def Doomed (exchange : Exchange Memory) : Prop :=
  exchange.master.rc ≠ 0 ∨
    exchange.controller.aborted = true ∧ exchange.master.Looks

theorem doomed_driver (doomed : Doomed exchange) : Doomed exchange.driver := by
  rcases doomed with reported | ⟨aborted, looks⟩
  · left
    unfold Exchange.driver
    dsimp only
    repeat' split
    all_goals first | exact reported | simp [eio, ebusy]
  · cases point : exchange.master.point with
    | testWriteLen | awaitNotFull | awaitEmpty | awaitData =>
        right
        rw [Exchange.driver, point]
        dsimp only
        repeat' split
        all_goals simp [Master.Looks, Exchange.goto, aborted, point]
    | writeData =>
        right
        rw [Exchange.driver, point]
        dsimp only
        split <;> simp [Master.Looks, Controller.push, aborted, point]
    | testReadLen =>
        right
        rw [Master.Looks, point] at looks
        obtain ⟨len, more⟩ := Nat.exists_eq_add_one.mpr looks
        simp [Exchange.driver, point, more, Master.Looks, aborted]
    | writeCommand =>
        right
        simp [Exchange.driver, point, Exchange.goto, Master.Looks,
          Controller.push, aborted]
    | testAborted | testDataAborted =>
        left
        simp [Exchange.driver, point, aborted, eio]
    | _ => simp [Master.Looks, point] at looks

theorem doomed_step (doomed : Doomed exchange) (move : Move) :
    Doomed ((machine slave).step exchange move) := by
  cases move with
  | driver => exact doomed_driver doomed
  | controller acked =>
      rcases doomed with reported | ⟨aborted, looks⟩
      · exact Or.inl reported
      · exact Or.inr ⟨Controller.aborted_kept acked aborted, looks⟩

theorem doomed_run (doomed : Doomed exchange) (moves : List Move) :
    Doomed ((machine slave).exec exchange moves) :=
  (machine slave).invariant Doomed (fun _ move holds => doomed_step holds move)
    exchange doomed moves

theorem aborted_of_refused {controller : Controller Memory} {acked : Bool}
    (refused : controller.event slave acked = some .refused) :
    (controller.advance slave acked).aborted = true ∧
      controller.pending ≠ [] := by
  unfold Controller.event at refused
  cases stopping : controller.stopping with
  | true => simp [stopping] at refused
  | false =>
      cases shifted : controller.shift with
      | none => simp [stopping, shifted] at refused
      | some command =>
          refine ⟨?_, by simp [Controller.pending, shifted]⟩
          rw [Controller.advance_of_shift stopping shifted]
          simp only [stopping, shifted, Bool.false_eq_true, if_false,
            Option.map_some, Option.some.injEq] at refused
          unfold Controller.execute
          by_cases same : controller.direction = some command.direction
          · simp only [if_pos same] at refused ⊢
            cases command <;> cases acked <;> simp at refused ⊢
            rfl
          · simp only [if_neg same] at refused ⊢
            cases acked <;> simp at refused ⊢
            rfl

/-- A refusal that the call still looks for dooms it. -/
theorem doomed_of_refused (several : 0 < size) {line : List Event}
    (asserts : Asserts size line exchange) {move : Move}
    (refused : (machine slave).output exchange move = some .refused)
    (heeds : exchange.master.point.heeds = true) :
    Doomed ((machine slave).step exchange move) := by
  cases move with
  | driver => simp [machine] at refused
  | controller acked =>
      obtain ⟨aborted, pending⟩ := aborted_of_refused refused
      refine Or.inr ⟨aborted, ?_⟩
      cases point : exchange.master.point with
      | testReadLen =>
          have between := asserts.between (by simp [point]) (by simp [point])
            (by simp [point])
          have path := asserts.path
          rw [point] at path
          have counted := asserts.counted path
          have fresh : exchange.master.stored = [] := by
            by_contra some
            exact pending (between.fetched some)
          simp only [fresh, point, Point.inLoop, List.length_nil,
            Bool.toNat_false] at counted
          simp only [machine, Master.Looks, point]
          omega
      | readData =>
          have held := asserts.queued
          rw [point] at held
          exact absurd held.none pending
      | _ => simp_all [Point.heeds, Master.Looks, machine]

/-- Where every refusal is heeded, there is none, or the call is doomed. -/
theorem unrefused_or_doomed (several : 0 < size) {line : List Event}
    (asserts : Asserts size line exchange) {moves : List Move}
    (heeded : Heeded slave exchange moves) :
    .refused ∉ (machine slave).trace exchange moves ∨
      Doomed ((machine slave).exec exchange moves) := by
  induction moves generalizing exchange line with
  | nil => exact Or.inl (List.not_mem_nil)
  | cons move rest induction =>
      by_cases refused :
          (machine slave).output exchange move = some .refused
      · right
        exact doomed_run (doomed_of_refused several asserts refused
          (heeded.1 refused)) rest
      · have next : ∃ line,
            Asserts size line ((machine slave).step exchange move) := by
          rw [← (step_answered refused).1]
          cases move with
          | driver => exact ⟨line, asserts.driver several⟩
          | controller => exact ⟨_, asserts.advance⟩
        obtain ⟨_, asserts⟩ := next
        rcases induction asserts heeded.2 with unrefused | doomed
        · left
          rw [Machine.trace_cons, List.mem_append, not_or]
          refine ⟨fun member => refused ?_, unrefused⟩
          exact Option.mem_toList.mp member
        · exact Or.inr doomed

/-- A call that returns without an error was refused nothing, if what was
refused was heeded. -/
theorem unrefused_of_returned (several : 0 < size) {line : List Event}
    (asserts : Asserts size line exchange) {moves : List Move}
    (heeded : Heeded slave exchange moves)
    (returned :
      ((machine slave).exec exchange moves).master.point = .returned)
    (succeeds : ((machine slave).exec exchange moves).master.rc = 0) :
    .refused ∉ (machine slave).trace exchange moves := by
  rcases unrefused_or_doomed several asserts heeded with
    unrefused | reported | ⟨-, looks⟩
  · exact unrefused
  · exact absurd succeeds reported
  · simp [Master.Looks, returned] at looks

end Refusals

namespace Access

variable {Memory : Type u} {slave : Slave Memory}
variable {controller : Controller Memory} {regAddr : UInt8} {call : Master}
variable (access : Access slave controller regAddr call)

def Heeded : Prop :=
  I2C.Heeded slave ⟨.write [regAddr] false, controller⟩ access.firstMoves ∧
    I2C.Heeded slave ⟨call, access.first.controller⟩ access.secondMoves

instance : Decidable access.Heeded :=
  inferInstanceAs (Decidable (_ ∧ _))

/-- An access in which nothing was refused. -/
theorem exists_acked (unrefused : .refused ∉ access.line) :
    ∃ other : Access slave controller regAddr call, other.Acked ∧
      other.first = access.first ∧ other.second = access.second ∧
        other.line = access.line := by
  rw [line, List.mem_append, not_or] at unrefused
  obtain ⟨first, firstLine⟩ := run_answered unrefused.1
  obtain ⟨second, secondLine⟩ := run_answered unrefused.2
  have second : (machine slave).exec
      ⟨call, ((machine slave).exec ⟨.write [regAddr] false, controller⟩
        (access.firstMoves.map .answered)).controller⟩
      (access.secondMoves.map .answered) = access.second := by
    rw [first]
    exact second
  have secondLine : (machine slave).trace
      ⟨call, ((machine slave).exec ⟨.write [regAddr] false, controller⟩
        (access.firstMoves.map .answered)).controller⟩
      (access.secondMoves.map .answered) = access.secondLine := by
    rw [first]
    exact secondLine
  refine ⟨⟨access.firstMoves.map .answered, access.secondMoves.map .answered,
    ?_, ?_⟩, ⟨acked_answered _, acked_answered _⟩, first, second,
    congrArg₂ (· ++ ·) firstLine secondLine⟩
  · rw [first]
    exact access.addressed
  · rw [second]
    exact access.returned

/-- What two calls without an error are worth: no byte was refused, unless when
nobody looked. -/
theorem heeded_iff (addressable : Addressed controller) {size : Nat}
    (several : 0 < size)
    (begins : ∀ controller : Controller Memory, Addressed controller →
      Asserts size [] ⟨call, controller⟩)
    (addresses : access.first.master.rc = 0)
    (succeeds : access.second.master.rc = 0) :
    access.Heeded ↔ .refused ∉ access.line := by
  rw [line, List.mem_append, not_or]
  constructor
  · rintro ⟨firstHeeded, secondHeeded⟩
    have started : Asserts 1 [] ⟨.write [regAddr] false, controller⟩ :=
      asserts_write addressable [regAddr] false
    have first := unrefused_of_returned Nat.one_pos started firstHeeded
      access.addressed addresses
    have asserts := (@asserts_run _ slave _ Nat.one_pos _ started _
      (acked_answered access.firstMoves)).1
    rw [(run_answered first).1] at asserts
    have goesOn : access.first.master.stop = false :=
      (task_run _ access.firstMoves).1
    have addressed := (addressed_of_returned asserts access.addressed goesOn).2
    exact ⟨first, unrefused_of_returned several (begins _ addressed)
      secondHeeded access.returned succeeds⟩
  · rintro ⟨first, second⟩
    exact ⟨heeded_of_unrefused first, heeded_of_unrefused second⟩

end Access

section Accepted

variable {Memory : Type u} {slave : Slave Memory}
variable {controller : Controller Memory}

theorem statuses_of_read {regAddr : UInt8} {size : Nat}
    (access : Access slave controller regAddr (.read size true))
    (buf : Vector UInt8 size) (state : State)
    (ok : (read access.transfer buf state).2.error = .ok) :
    access.first.master.rc = 0 ∧ access.second.master.rc = 0 :=
  (read_error_iff access.transfer buf state).mp ok

theorem statuses_of_write {addressStatus dataStatus : Int32} {state : State}
    (ok : (write addressStatus dataStatus state).error = .ok) :
    addressStatus = 0 ∧ dataStatus = 0 := by
  by_cases addressed : addressStatus = 0
  · by_cases written : dataStatus = 0
    · exact ⟨addressed, written⟩
    · simp [write, addressed, written] at ok
  · simp [write, addressed] at ok

theorem transfer_eq {regAddr : UInt8} {size : Nat}
    {access other : Access slave controller regAddr (.read size true)}
    (first : other.first = access.first)
    (second : other.second = access.second) :
    other.transfer = access.transfer := by
  simp only [Access.transfer, first, second]

/-- A read that reports no error, with every refusal heeded, is one in which
everything was acknowledged. -/
theorem exists_acked_of_succeeds (addressable : Addressed controller)
    {regAddr : UInt8} {size : Nat} (several : 0 < size)
    {access : Access slave controller regAddr (.read size true)}
    (heeded : access.Heeded) (succeeds : access.transfer.Succeeds) :
    ∃ other : Access slave controller regAddr (.read size true),
      other.Acked ∧ other.transfer = access.transfer ∧
        other.second = access.second := by
  have unrefused := (access.heeded_iff addressable several
    (fun _ addressed => asserts_read addressed true) succeeds.1
    succeeds.2).mp heeded
  obtain ⟨other, acked, first, second, -⟩ := access.exists_acked unrefused
  exact ⟨other, acked, transfer_eq first second, second⟩

/-- An access that reports no error was accepted byte by byte if and only if
nothing was refused between the moments at which the calls look for it. -/
theorem heeded_iff_unrefused (addressable : Addressed controller)
    (regAddr : UInt8) (state : State) :
    (∀ (size : Nat) (access : Access slave controller regAddr
        (.read size true)) (buf : Vector UInt8 size), 0 < size →
      (read access.transfer buf state).2.error = .ok →
        (access.Heeded ↔ .refused ∉ access.line)) ∧
    (∀ (data : List UInt8) (access : Access slave controller regAddr
        (.write data true)),
      (write access.first.master.rc access.second.master.rc
          state).error = .ok →
        (access.Heeded ↔ .refused ∉ access.line)) := by
  refine ⟨?_, ?_⟩
  · intro size access buf several ok
    obtain ⟨addresses, succeeds⟩ := statuses_of_read access buf state ok
    exact access.heeded_iff addressable several
      (fun _ addressed => asserts_read addressed true) addresses succeeds
  · intro data access ok
    obtain ⟨addresses, succeeds⟩ := statuses_of_write ok
    exact access.heeded_iff addressable Nat.one_pos
      (fun _ addressed => asserts_write addressed data true) addresses succeeds

end Accepted

/-- The register's address is refused after the first call has looked at the
abort source; the second call clears it before it looks. -/
def lost : Access ⟨fun memory _ => memory, id⟩
    ⟨false, false, false, [], [], none, none, false, (0x5A : UInt8)⟩ 0x88
    (.read 1 true) where
  firstMoves := [.driver, .controller true] ++ List.replicate 6 .driver ++
    [.controller true] ++ List.replicate 4 .driver
  secondMoves := .controller false ::
    (List.replicate 16 [.driver, .controller true]).flatten
  addressed := by decide +kernel
  returned := by decide +kernel

theorem heeded_iff_unrefused_lost :
    (read lost.transfer #v[0] State.initial).2.error = .ok ∧
      .refused ∈ lost.line ∧ ¬lost.Heeded := by
  have ok : (read lost.transfer #v[0] State.initial).2.error = .ok := by
    decide +kernel
  have refused : .refused ∈ lost.line := by decide +kernel
  have accepted := (heeded_iff_unrefused ⟨⟨fun _ => ⟨rfl, rfl, by simp⟩,
    fun _ => ⟨rfl, rfl⟩⟩, rfl, rfl, rfl, by decide⟩ 0x88
    State.initial).1 1 lost #v[0] Nat.one_pos ok
  exact ⟨ok, refused, fun heeded => accepted.mp heeded refused⟩

end I2C

end QuarkMeteoStation
