import QuarkMeteoStation.Library.Decimal

namespace Library.HttpFrame

open Library.Decimal

/-! A text of CRLF-terminated head lines, a blank line, a body and a closing
CRLF, read from its bytes alone. -/

def crlf : List UInt8 := [13, 10]

structure Frame where
  head : List (List UInt8)
  body : List UInt8
  deriving DecidableEq, Repr

def splitLine : List UInt8 → Option (List UInt8 × List UInt8)
  | [] => none
  | first :: rest =>
      match first, rest with
      | 13, 10 :: rest => some ([], rest)
      | byte, rest =>
          (splitLine rest).map fun (line, rest) => (byte :: line, rest)

/-- The lines in front of the first blank one. Every line consumes at least two
bytes, so the length of the text is enough fuel. -/
def readHead : Nat → List UInt8 → Option (List (List UInt8) × List UInt8)
  | 0, _ => none
  | fuel + 1, text => do
      let (line, rest) ← splitLine text
      if line = [] then some ([], rest)
      else
        let (lines, rest) ← readHead fuel rest
        some (line :: lines, rest)

def stripClosing? (text : List UInt8) : Option (List UInt8) :=
  if crlf.isSuffixOf text then some (text.take (text.length - crlf.length))
  else none

def read? (text : List UInt8) : Option Frame := do
  let (head, rest) ← readHead text.length text
  let body ← stripClosing? rest
  some ⟨head, body⟩

/-- What the first head line with that name says. -/
def Frame.field? (frame : Frame) (name : List UInt8) : Option (List UInt8) :=
  (frame.head.find? fun line => name.isPrefixOf line).map fun line =>
    line.drop name.length

def renderHead (head : List (List UInt8)) : List UInt8 :=
  head.flatMap fun line => line ++ crlf

def Frame.render (frame : Frame) : List UInt8 :=
  renderHead frame.head ++ crlf ++ frame.body ++ crlf

theorem splitLine_render {line : List UInt8} (plain : (13 : UInt8) ∉ line)
    (rest : List UInt8) :
    splitLine (line ++ crlf ++ rest) = some (line, rest) := by
  induction line with
  | nil => rfl
  | cons byte line induction =>
      have different : byte ≠ 13 := fun same => plain (by simp [same])
      have later := induction fun member => plain (by simp [member])
      simp only [List.cons_append]
      rw [splitLine]
      · rw [later]
        rfl
      · intro _ same
        exact absurd same different

theorem readHead_render (head : List (List UInt8))
    (plain : ∀ line ∈ head, line ≠ [] ∧ (13 : UInt8) ∉ line)
    (rest : List UInt8) (fuel : Nat) (enough : head.length < fuel) :
    readHead fuel (renderHead head ++ crlf ++ rest) = some (head, rest) := by
  induction head generalizing fuel with
  | nil =>
      cases fuel with
      | zero => simp at enough
      | succ fuel => rfl
  | cons line head induction =>
      cases fuel with
      | zero => simp at enough
      | succ fuel =>
          obtain ⟨nonempty, lineFree⟩ := plain line (by simp)
          have later := induction
            (fun other member => plain other (by simp [member]))
            fuel (Nat.lt_of_succ_lt_succ enough)
          have shape : renderHead (line :: head) ++ crlf ++ rest =
              line ++ crlf ++ (renderHead head ++ crlf ++ rest) := by
            simp [renderHead]
          rw [shape, readHead, splitLine_render lineFree]
          simp only [Option.bind_eq_bind, Option.bind_some, if_neg nonempty,
            later]

theorem length_le_renderHead (head : List (List UInt8)) :
    head.length ≤ (renderHead head).length := by
  induction head with
  | nil => exact Nat.le_refl 0
  | cons line head induction =>
      simp only [renderHead, List.flatMap_cons, List.length_append,
        List.length_cons, crlf, List.length_nil] at induction ⊢
      omega

theorem stripClosing?_append (body : List UInt8) :
    stripClosing? (body ++ crlf) = some body := by
  simp [stripClosing?]

/-- A frame whose head lines are neither blank nor hold a CR is read back. -/
theorem read?_render (frame : Frame)
    (plain : ∀ line ∈ frame.head, line ≠ [] ∧ (13 : UInt8) ∉ line) :
    read? frame.render = some frame := by
  have enough : frame.head.length < frame.render.length := by
    have lines := length_le_renderHead frame.head
    simp only [Frame.render, List.length_append, crlf, List.length_cons,
      List.length_nil]
    omega
  have shape : frame.render =
      renderHead frame.head ++ crlf ++ (frame.body ++ crlf) := by
    simp [Frame.render]
  have head := readHead_render frame.head plain (frame.body ++ crlf) _ enough
  rw [← shape] at head
  simp [read?, head, stripClosing?_append]

end Library.HttpFrame
