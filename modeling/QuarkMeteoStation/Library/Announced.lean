import QuarkMeteoStation.Library.Machine

namespace Library.Announced

universe u

/-! A receiver of a byte stream of lines closed by CR LF, where a line may
announce a number of bytes that follow it as they are. What a line means may
depend on the lines before it. -/

/-- Lines pile up until they are closed; announced bytes are taken blindly. -/
inductive Phase
  | line (collected : List UInt8)
  /-- `missing` bytes are still to come after the next one. -/
  | data (collected : List UInt8) (missing : Nat)
  deriving DecidableEq, Repr

structure Receiver (Session : Type u) where
  session : Session
  phase : Phase
  deriving DecidableEq, Repr

namespace Receiver

variable {Session : Type u}

def idle (session : Session) : Receiver Session := ⟨session, .line []⟩

/-- The receiver once a line has been taken, which announces so many bytes. -/
def opened : Session × Nat → Receiver Session
  | (session, 0) => idle session
  | (session, missing + 1) => ⟨session, .data [] missing⟩

def endsLine (collected : List UInt8) (byte : UInt8) : Bool :=
  byte == 10 && collected.getLast? == some 13

-- The session a line leaves behind and the number of bytes it announces.
variable (command : Session → List UInt8 → Session × Nat)

def next (receiver : Receiver Session) (byte : UInt8) : Receiver Session :=
  match receiver.phase with
  | .line collected =>
      if endsLine collected byte then
        opened (command receiver.session collected.dropLast)
      else ⟨receiver.session, .line (collected ++ [byte])⟩
  | .data _ 0 => idle receiver.session
  | .data collected (missing + 1) =>
      ⟨receiver.session, .data (collected ++ [byte]) missing⟩

def received (receiver : Receiver Session) (byte : UInt8) :
    Option (List UInt8) :=
  match receiver.phase with
  | .data collected 0 => some (collected ++ [byte])
  | _ => none

/-- It hands on the announced blocks. -/
def machine : Machine (Receiver Session) UInt8 (List UInt8) where
  start := fun receiver => ∃ session, receiver = idle session
  step := next command
  output := received

variable {command} (session : Session)

theorem endsLine_of_plain {collected : List UInt8}
    (plain : (13 : UInt8) ∉ collected) (byte : UInt8) :
    endsLine collected byte = false := by
  have last : collected.getLast? ≠ some 13 := fun same =>
    plain (List.mem_of_getLast? same)
  simp [endsLine, last]

/-- The bytes of a line only pile up. -/
theorem line_plain {text collected : List UInt8}
    (plain : (13 : UInt8) ∉ collected ++ text) :
    (machine command).exec ⟨session, .line collected⟩ text =
        ⟨session, .line (collected ++ text)⟩ ∧
      (machine command).trace ⟨session, .line collected⟩ text = [] := by
  induction text generalizing collected with
  | nil => simp
  | cons byte text induction =>
      have front : (13 : UInt8) ∉ collected := fun member =>
        plain (List.mem_append_left _ member)
      have shape : collected ++ byte :: text = collected ++ [byte] ++ text := by
        simp
      have goes : (machine command).step ⟨session, .line collected⟩ byte =
          ⟨session, .line (collected ++ [byte])⟩ := by
        simp [machine, next, endsLine_of_plain front]
      have quiet : (machine command).output ⟨session, .line collected⟩ byte =
          none := rfl
      obtain ⟨rests, silent⟩ := induction (shape ▸ plain)
      rw [Machine.exec_cons, Machine.trace_cons, goes, quiet, rests, silent,
        shape]
      exact ⟨rfl, rfl⟩

/-- A closed line is taken as a command, and nothing is handed on. -/
theorem line {text : List UInt8} (plain : (13 : UInt8) ∉ text) :
    (machine command).exec (idle session) (text ++ [13, 10]) =
        opened (command session text) ∧
      (machine command).trace (idle session) (text ++ [13, 10]) = [] := by
  obtain ⟨collects, quiet⟩ := @line_plain Session command session text []
    (by simpa using plain)
  have carried := endsLine_of_plain plain (13 : UInt8)
  have ended : endsLine (text ++ [13]) 10 = true := by
    simp [endsLine]
  rw [Machine.exec_append, Machine.trace_append, idle, collects, quiet]
  refine ⟨?_, ?_⟩
  · simp [machine, next, carried, ended]
  · simp [machine, next, received, carried]

/-- Announced bytes are taken as they are, whatever they look like. -/
theorem data_block {collected block : List UInt8} {missing : Nat}
    (length : block.length = missing + 1) :
    (machine command).exec ⟨session, .data collected missing⟩ block =
        idle session ∧
      (machine command).trace ⟨session, .data collected missing⟩ block =
        [collected ++ block] := by
  induction block generalizing collected missing with
  | nil => simp at length
  | cons byte block induction =>
      cases missing with
      | zero =>
          have alone : block = [] := by simpa using length
          subst alone
          simp [machine, next, received, idle]
      | succ missing =>
          obtain ⟨rests, taken⟩ := @induction (collected ++ [byte]) missing
            (Nat.succ.inj length)
          rw [Machine.exec_cons, Machine.trace_cons]
          simp only [machine, next, received] at rests taken ⊢
          rw [rests, taken]
          simp

/-- A block of the announced length is handed on whole. -/
theorem block {block : List UInt8} (nonempty : block ≠ []) :
    (machine command).exec (opened (session, block.length)) block =
        idle session ∧
      (machine command).trace (opened (session, block.length)) block =
        [block] := by
  cases block with
  | nil => contradiction
  | cons byte rest =>
      have taken := @data_block Session command session [] (byte :: rest)
        rest.length rfl
      simpa [opened] using taken

end Receiver

end Library.Announced
