import Mathlib.Data.List.Basic

namespace Library.FlatJson

/-! The JSON objects whose members are strings, written without insignificant
whitespace and without escapes: a sublanguage, so that a text accepted here is a
well-formed JSON text. -/

/-- A printable ASCII byte that stands for itself inside a JSON string: neither
the quote nor the backslash. -/
def isPlain (byte : UInt8) : Bool :=
  32 ≤ byte.toNat && byte.toNat ≤ 126 && byte != 34 && byte != 92

abbrev Member := List UInt8 × List UInt8

def renderString (text : List UInt8) : List UInt8 :=
  34 :: text ++ [34]

def renderMember (member : Member) : List UInt8 :=
  renderString member.1 ++ 58 :: renderString member.2

def renderMembers : List Member → List UInt8
  | [] => []
  | [member] => renderMember member
  | member :: next :: rest =>
      renderMember member ++ 44 :: renderMembers (next :: rest)

def renderObject (members : List Member) : List UInt8 :=
  123 :: renderMembers members ++ [125]

def expect (byte : UInt8) : List UInt8 → Option (List UInt8)
  | [] => none
  | first :: rest => if first = byte then some rest else none

def parseString? (text : List UInt8) : Option (List UInt8 × List UInt8) := do
  let body ← expect 34 text
  let rest ← expect 34 (body.dropWhile isPlain)
  some (body.takeWhile isPlain, rest)

def parseMember? (text : List UInt8) : Option (Member × List UInt8) := do
  let (name, afterName) ← parseString? text
  let afterColon ← expect 58 afterName
  let (content, rest) ← parseString? afterColon
  some ((name, content), rest)

/-- Members separated by commas up to the closing brace. Every member consumes
at least one byte, so the length of the text is enough fuel. -/
def parseMembers? : Nat → List UInt8 → Option (List Member × List UInt8)
  | 0, _ => none
  | fuel + 1, text => do
      let (member, rest) ← parseMember? text
      match expect 44 rest with
      | some next => do
          let (members, final) ← parseMembers? fuel next
          some (member :: members, final)
      | none => do
          let final ← expect 125 rest
          some ([member], final)

/-- A whole text that is one object with at least one member. -/
def parseObject? (text : List UInt8) : Option (List Member) := do
  let body ← expect 123 text
  let (members, final) ← parseMembers? text.length body
  if final = [] then some members else none

def Plain (member : Member) : Prop :=
  member.1.all isPlain = true ∧ member.2.all isPlain = true

@[simp] theorem expect_cons (byte : UInt8) (rest : List UInt8) :
    expect byte (byte :: rest) = some rest := by
  simp [expect]

theorem takeWhile_plain {text : List UInt8} (plain : text.all isPlain = true)
    (rest : List UInt8) :
    (text ++ 34 :: rest).takeWhile isPlain = text ∧
      (text ++ 34 :: rest).dropWhile isPlain = 34 :: rest := by
  have passes := List.all_eq_true.mp plain
  rw [List.takeWhile_append_of_pos passes, List.dropWhile_append_of_pos passes]
  simp [isPlain]

theorem parseString?_render {text : List UInt8}
    (plain : text.all isPlain = true) (rest : List UInt8) :
    parseString? (renderString text ++ rest) = some (text, rest) := by
  have shape : renderString text ++ rest = 34 :: (text ++ 34 :: rest) := by
    simp [renderString]
  obtain ⟨taken, dropped⟩ := takeWhile_plain plain rest
  simp [parseString?, shape, taken, dropped]

theorem parseMember?_render {member : Member} (plain : Plain member)
    (rest : List UInt8) :
    parseMember? (renderMember member ++ rest) = some (member, rest) := by
  have shape : renderMember member ++ rest =
      renderString member.1 ++ (58 :: (renderString member.2 ++ rest)) := by
    simp [renderMember]
  simp [parseMember?, shape, parseString?_render plain.1,
    parseString?_render plain.2]

theorem parseMembers?_render (members : List Member) (nonempty : members ≠ [])
    (plain : ∀ member ∈ members, Plain member) (rest : List UInt8)
    (fuel : Nat) (enough : members.length ≤ fuel) :
    parseMembers? fuel (renderMembers members ++ 125 :: rest) =
      some (members, rest) := by
  induction members generalizing fuel with
  | nil => contradiction
  | cons member later induction =>
      cases fuel with
      | zero => simp at enough
      | succ fuel =>
          have headPlain : Plain member := plain member (by simp)
          cases later with
          | nil =>
              simp [parseMembers?, renderMembers,
                parseMember?_render headPlain, expect]
          | cons next later =>
              have tail := induction (List.cons_ne_nil next later)
                (fun candidate candidateIn =>
                  plain candidate (List.mem_cons_of_mem member candidateIn))
                fuel (Nat.le_of_succ_le_succ enough)
              have shape :
                  renderMembers (member :: next :: later) ++ 125 :: rest =
                    renderMember member ++
                      (44 :: (renderMembers (next :: later) ++ 125 :: rest)) := by
                simp [renderMembers]
              simp [parseMembers?, shape, parseMember?_render headPlain, tail]

theorem length_le_length_renderMembers (members : List Member) :
    members.length ≤ (renderMembers members).length := by
  induction members with
  | nil => simp
  | cons member later induction =>
      cases later with
      | nil => simp [renderMembers, renderMember, renderString]
      | cons next later =>
          simp only [renderMembers, List.length_append, List.length_cons]
            at induction ⊢
          omega

theorem parseObject?_render (members : List Member) (nonempty : members ≠ [])
    (plain : ∀ member ∈ members, Plain member) :
    parseObject? (renderObject members) = some members := by
  have enough : members.length ≤ (renderObject members).length := by
    have bound := length_le_length_renderMembers members
    simp only [renderObject, List.length_append, List.length_cons]
    omega
  have shape : renderObject members = 123 :: (renderMembers members ++ [125]) := by
    simp [renderObject]
  have body := parseMembers?_render members nonempty plain []
    (renderObject members).length enough
  simp [parseObject?, shape] at body ⊢
  rw [body]
  simp

end Library.FlatJson
