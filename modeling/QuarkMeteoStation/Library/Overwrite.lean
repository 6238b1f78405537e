import Mathlib.Data.List.GetD
import Mathlib.Data.List.Induction
import Mathlib.Logic.Function.Basic

namespace Library

universe u v

/-! A field of cells that texts of different lengths are written into from its
first cell on, each over what the earlier ones left. -/

section Overwrite

variable {Cell : Type u}

/-- A memory after writing a text from an address on. -/
def stamp (cells : Nat → Cell) (start : Nat) (text : List Cell) : Nat → Cell :=
  fun address =>
    if start ≤ address then text.getD (address - start) (cells address)
    else cells address

/-- What a cell of the field holds after these texts. -/
def overwritten (old : Cell) (offset : Nat) (texts : List (List Cell)) : Cell :=
  texts.foldl (fun cell text => text.getD offset cell) old

@[simp] theorem stamp_nil (cells : Nat → Cell) (start : Nat) :
    stamp cells start [] = cells := by
  funext address
  simp [stamp]

theorem stamp_cons (cells : Nat → Cell) (start : Nat) (cell : Cell)
    (text : List Cell) :
    stamp cells start (cell :: text) =
      stamp (Function.update cells start cell) (start + 1) text := by
  funext address
  simp only [stamp]
  by_cases here : address = start
  · subst here
    rw [if_pos (Nat.le_refl _), if_neg (by omega), Function.update_self,
      Nat.sub_self, List.getD_cons_zero]
  · rw [Function.update_of_ne here]
    by_cases after : start + 1 ≤ address
    · have offset : address - start = address - (start + 1) + 1 := by omega
      rw [if_pos after, if_pos (by omega), offset, List.getD_cons_succ]
    · rw [if_neg after, if_neg (by omega)]

theorem stamp_of_lt {cells : Nat → Cell} {start address : Nat}
    (before : address < start) (text : List Cell) :
    stamp cells start text address = cells address :=
  if_neg (Nat.not_le.mpr before)

theorem stamp_of_le {cells : Nat → Cell} {start address : Nat}
    (text : List Cell) (beyond : start + text.length ≤ address) :
    stamp cells start text address = cells address := by
  rw [stamp, if_pos (by omega), List.getD_eq_default]
  omega

theorem stamp_inside {cells : Nat → Cell} {start address : Nat}
    (after : start ≤ address) (text : List Cell) :
    stamp cells start text address =
      text.getD (address - start) (cells address) :=
  if_pos after

variable {old : Cell} {offset : Nat} {texts : List (List Cell)}

@[simp] theorem overwritten_concat (last : List Cell) :
    overwritten old offset (texts ++ [last]) =
      last.getD offset (overwritten old offset texts) := by
  simp [overwritten]

theorem overwritten_append (later : List (List Cell)) :
    overwritten old offset (texts ++ later) =
      overwritten (overwritten old offset texts) offset later :=
  List.foldl_append

theorem overwritten_of_short
    (short : ∀ text ∈ texts, text.length ≤ offset) :
    overwritten old offset texts = old := by
  induction texts using List.reverseRecOn with
  | nil => rfl
  | append_singleton earlier last induction =>
      have before := induction fun text member => short text (by simp [member])
      rw [overwritten_concat, before, List.getD_eq_default]
      exact short last (by simp)

theorem overwritten_of_latest {older newer : List (List Cell)}
    {text : List Cell} (reaches : offset < text.length)
    (short : ∀ later ∈ newer, later.length ≤ offset) :
    overwritten old offset (older ++ text :: newer) = text[offset] := by
  have regrouped : older ++ text :: newer = (older ++ [text]) ++ newer := by
    simp
  have here : overwritten old offset (older ++ [text]) = text[offset] := by
    rw [overwritten_concat, List.getD_eq_getElem _ _ reaches]
  rw [regrouped, overwritten_append, here]
  exact overwritten_of_short short

theorem exists_latest (reached : ∃ text ∈ texts, offset < text.length) :
    ∃ older text newer, texts = older ++ text :: newer ∧
      offset < text.length ∧ ∀ later ∈ newer, later.length ≤ offset := by
  induction texts using List.reverseRecOn with
  | nil => simp at reached
  | append_singleton earlier last induction =>
      by_cases lastReaches : offset < last.length
      · exact ⟨earlier, last, [], rfl, lastReaches, by simp⟩
      · obtain ⟨text, member, reaches⟩ := reached
        have before : text ∈ earlier := by
          rcases List.mem_append.mp member with before | final
          · exact before
          · rw [List.mem_singleton.mp final] at reaches
            exact absurd reaches lastReaches
        obtain ⟨older, latest, newer, split, latestReaches, short⟩ :=
          induction ⟨text, before, reaches⟩
        refine ⟨older, latest, newer ++ [last], ?_, latestReaches, ?_⟩
        · rw [split, List.append_assoc, List.cons_append]
        · intro later laterMember
          rcases List.mem_append.mp laterMember with old | final
          · exact short later old
          · rw [List.mem_singleton.mp final]
            exact Nat.not_lt.mp lastReaches

/-- A cell none of the texts may restore is still untouched only when none of
them has reached it. -/
theorem short_of_overwritten_eq (foreign : ∀ text ∈ texts, old ∉ text)
    (kept : overwritten old offset texts = old) :
    ∀ text ∈ texts, text.length ≤ offset := by
  induction texts using List.reverseRecOn with
  | nil => simp
  | append_singleton earlier last induction =>
      rw [overwritten_concat] at kept
      have lastForeign : old ∉ last := foreign last (by simp)
      have lastShort : last.length ≤ offset := by
        by_contra reaches
        rw [List.getD_eq_getElem _ _ (Nat.not_le.mp reaches)] at kept
        exact lastForeign (kept ▸ List.getElem_mem _)
      rw [List.getD_eq_default _ _ lastShort] at kept
      have earlierShort := induction
        (fun text member => foreign text (by simp [member])) kept
      intro text member
      rcases List.mem_append.mp member with before | final
      · exact earlierShort text before
      · rw [List.mem_singleton.mp final]
        exact lastShort

section Rendered

variable {Entry : Type v} {render : Entry → List Cell} {entries : List Entry}

theorem overwritten_map_of_short
    (short : ∀ entry ∈ entries, (render entry).length ≤ offset) :
    overwritten old offset (entries.map render) = old :=
  overwritten_of_short (List.forall_mem_map.mpr short)

theorem short_of_overwritten_map_eq (foreign : ∀ entry, old ∉ render entry)
    (kept : overwritten old offset (entries.map render) = old) :
    ∀ entry ∈ entries, (render entry).length ≤ offset := by
  have texts : ∀ text ∈ entries.map render, old ∉ text :=
    List.forall_mem_map.mpr fun entry _ => foreign entry
  exact List.forall_mem_map.mp (short_of_overwritten_eq texts kept)

end Rendered

/-- A text that brings its own eraser for one cell. -/
structure Ended (blank : Cell) (text : List Cell) : Prop where
  body : ∃ body, text = body ++ [blank] ∧ blank ∉ body

theorem Ended.getElem_eq_iff {blank : Cell} {text : List Cell}
    (ended : Ended blank text) (inside : offset < text.length) :
    text[offset] = blank ↔ offset + 1 = text.length := by
  obtain ⟨body, rfl, free⟩ := ended.body
  rw [List.length_append, List.length_singleton] at inside ⊢
  by_cases last : offset = body.length
  · subst last
    simp
  · have early : offset < body.length := by omega
    rw [List.getElem_append_left early]
    constructor
    · intro same
      exact absurd (same ▸ List.getElem_mem early) free
    · intro final
      omega

section Fresh

variable {blank : Cell} {earlier : List (List Cell)} {last : List Cell}

/-- The last cell a text wrote in front of its eraser gives away that only much
shorter texts came after it. -/
private theorem followed_of_fresh
    (ended : ∀ text ∈ earlier, Ended blank text)
    (fresh : ∀ offset, overwritten blank offset (earlier ++ [last]) =
      last.getD offset blank)
    {older newer : List (List Cell)} {text : List Cell}
    (split : earlier = older ++ text :: newer) :
    ∃ later ∈ newer ++ [last], text.length ≤ later.length + 1 := by
  by_contra none
  have short : ∀ later ∈ newer ++ [last], later.length + 1 < text.length :=
    fun later member => Nat.not_le.mp fun le => none ⟨later, member, le⟩
  have lastShort := short last (by simp)
  have reaches : text.length - 2 < text.length := by omega
  have textEnded := ended text (by rw [split]; simp)
  have here := @overwritten_of_latest Cell blank (text.length - 2) older
    newer text reaches fun later member => by
      have := short later (by simp [member])
      omega
  have same := fresh (text.length - 2)
  rw [overwritten_concat, List.getD_eq_default _ _ (by omega),
    List.getD_eq_default _ _ (by omega), split, here,
    textEnded.getElem_eq_iff] at same
  omega

/-- Where a text leaves a cell beyond the last one it is the text's eraser. -/
private theorem fresh_of_followed
    (ended : ∀ text ∈ earlier, Ended blank text)
    (followed : ∀ older text newer, earlier = older ++ text :: newer →
      ∃ later ∈ newer ++ [last], text.length ≤ later.length + 1)
    (lastShort : last.length ≤ offset) :
    overwritten blank offset earlier = blank := by
  by_cases reached : ∃ text ∈ earlier, offset < text.length
  · obtain ⟨older, text, newer, split, textReaches, short⟩ :=
      exists_latest reached
    obtain ⟨later, member, close⟩ := followed older text newer split
    have laterShort : later.length ≤ offset := by
      rcases List.mem_append.mp member with old | final
      · exact short later old
      · rw [List.mem_singleton.mp final]
        exact lastShort
    have textEnded := ended text (by rw [split]; simp)
    rw [split, overwritten_of_latest textReaches short,
      textEnded.getElem_eq_iff]
    omega
  · apply overwritten_of_short
    intro text member
    exact Nat.not_lt.mp fun long => reached ⟨text, member, long⟩

/-- The last text looks as if written into a blank field exactly when every
earlier one was followed by some text at most one cell shorter. -/
theorem overwritten_fresh_iff (ended : ∀ text ∈ earlier, Ended blank text) :
    (∀ offset, overwritten blank offset (earlier ++ [last]) =
        overwritten blank offset [last]) ↔
      ∀ older text newer, earlier = older ++ text :: newer →
        ∃ later ∈ newer ++ [last], text.length ≤ later.length + 1 := by
  have single : ∀ offset, overwritten blank offset [last] =
      last.getD offset blank := fun offset => rfl
  simp only [single]
  constructor
  · intro fresh older text newer split
    exact followed_of_fresh ended fresh split
  · intro followed offset
    rw [overwritten_concat]
    by_cases reaches : offset < last.length
    · rw [List.getD_eq_getElem _ _ reaches, List.getD_eq_getElem _ _ reaches]
    · have lastShort := Nat.not_lt.mp reaches
      rw [List.getD_eq_default _ _ lastShort, List.getD_eq_default _ _ lastShort]
      exact fresh_of_followed ended followed lastShort

end Fresh

/-- The same, for texts that render the entries of a list. -/
theorem overwritten_map_fresh_iff {Entry : Type v} {blank : Cell}
    {render : Entry → List Cell} {earlier : List Entry} {last : Entry}
    (ended : ∀ entry, Ended blank (render entry)) :
    (∀ offset, overwritten blank offset ((earlier ++ [last]).map render) =
        overwritten blank offset [render last]) ↔
      ∀ older entry newer, earlier = older ++ entry :: newer →
        ∃ later ∈ newer ++ [last],
          (render entry).length ≤ (render later).length + 1 := by
  have texts := @overwritten_fresh_iff Cell blank (earlier.map render)
    (render last) (List.forall_mem_map.mpr fun entry _ => ended entry)
  rw [List.map_append, List.map_singleton, texts]
  constructor
  · intro followed older entry newer split
    obtain ⟨text, member, close⟩ := followed (older.map render)
      (render entry) (newer.map render) (by rw [split]; simp)
    rw [← List.map_singleton, ← List.map_append] at member
    obtain ⟨later, laterMember, rfl⟩ := List.mem_map.mp member
    exact ⟨later, laterMember, close⟩
  · intro followed older text newer split
    obtain ⟨olderEntries, rest, entries, rfl, restTexts⟩ :=
      List.map_eq_append_iff.mp split
    obtain ⟨entry, newerEntries, rfl, rfl, rfl⟩ :=
      List.map_eq_cons_iff.mp restTexts
    obtain ⟨later, member, close⟩ :=
      followed olderEntries entry newerEntries entries
    refine ⟨render later, ?_, close⟩
    rw [← List.map_singleton, ← List.map_append]
    exact List.mem_map_of_mem member

/-- Only the cells the texts can reach need to be looked at. -/
theorem overwritten_map_fresh_below_iff {Entry : Type v} {blank : Cell}
    {render : Entry → List Cell} {earlier : List Entry} {last : Entry}
    {limit : Nat} (ended : ∀ entry, Ended blank (render entry))
    (fits : ∀ entry ∈ earlier ++ [last], (render entry).length ≤ limit) :
    (∀ offset < limit,
        overwritten blank offset ((earlier ++ [last]).map render) =
          overwritten blank offset [render last]) ↔
      ∀ older entry newer, earlier = older ++ entry :: newer →
        ∃ later ∈ newer ++ [last],
          (render entry).length ≤ (render later).length + 1 := by
  rw [← overwritten_map_fresh_iff ended]
  constructor
  · intro fresh offset
    by_cases inside : offset < limit
    · exact fresh offset inside
    · have beyond := Nat.not_lt.mp inside
      have short : ∀ entry ∈ earlier ++ [last],
          (render entry).length ≤ offset := fun entry member =>
        Nat.le_trans (fits entry member) beyond
      rw [overwritten_map_of_short short, ← List.map_singleton,
        overwritten_map_of_short fun entry member =>
          short entry (List.mem_append_right earlier member)]
  · intro fresh offset _
    exact fresh offset

end Overwrite

end Library
