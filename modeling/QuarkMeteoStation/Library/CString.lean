import Mathlib.Data.List.Basic

namespace Library

/-- Memory from a buffer's first byte on. A store past the known bytes extends
the image, and `written` is one past the highest index stored to so far: a
buffer of `size` bytes has been overrun exactly when `size < written`. -/
structure Buffer where
  bytes : List UInt8
  written : Nat
  deriving DecidableEq, Repr

namespace Buffer

def load (buffer : Buffer) (index : Nat) : UInt8 :=
  buffer.bytes.getD index 0

def store (buffer : Buffer) (index : Nat) (byte : UInt8) : Buffer where
  bytes :=
    buffer.bytes.take index ++
      List.replicate (index - buffer.bytes.length) 0 ++
      byte :: buffer.bytes.drop (index + 1)
  written := max buffer.written (index + 1)

def storeAll (buffer : Buffer) (index : Nat) : List UInt8 → Buffer
  | [] => buffer
  | byte :: rest => storeAll (buffer.store index byte) (index + 1) rest

/-- The bytes in front of the first NUL. -/
def cstring (buffer : Buffer) : List UInt8 :=
  buffer.bytes.takeWhile fun byte => byte != 0

def strlen (buffer : Buffer) : Nat :=
  buffer.cstring.length

def strcpy (buffer : Buffer) (source : List UInt8) : Buffer :=
  buffer.storeAll 0 (source ++ [0])

def strcat (buffer : Buffer) (source : List UInt8) : Buffer :=
  buffer.storeAll buffer.strlen (source ++ [0])

/-- The buffer's memory starts with `text` and its terminating NUL. -/
structure Holds (buffer : Buffer) (text : List UInt8) : Prop where
  nulFree : (0 : UInt8) ∉ text
  stored : ∃ rest, buffer.bytes = text ++ 0 :: rest

theorem Holds.cstring_eq {buffer : Buffer} {text : List UInt8}
    (holds : buffer.Holds text) : buffer.cstring = text := by
  obtain ⟨rest, stored⟩ := holds.stored
  have passes : ∀ byte ∈ text, (byte != 0) = true := by
    intro byte member
    simpa using fun zero : byte = 0 => holds.nulFree (zero ▸ member)
  unfold cstring
  rw [stored, List.takeWhile_append_of_pos passes]
  simp

theorem Holds.strlen_eq {buffer : Buffer} {text : List UInt8}
    (holds : buffer.Holds text) : buffer.strlen = text.length := by
  rw [strlen, holds.cstring_eq]

theorem store_bytes {buffer : Buffer} {front rest : List UInt8}
    (image : buffer.bytes = front ++ rest) (byte : UInt8) :
    (buffer.store front.length byte).bytes = front ++ byte :: rest.drop 1 := by
  have padding : front.length - buffer.bytes.length = 0 := by
    rw [image, List.length_append]
    omega
  simp only [store, padding, List.replicate_zero, List.append_nil]
  rw [image, List.take_left, List.drop_append]
  simp

theorem storeAll_bytes {buffer : Buffer} {front rest : List UInt8}
    (image : buffer.bytes = front ++ rest) (source : List UInt8) :
    (buffer.storeAll front.length source).bytes =
      front ++ source ++ rest.drop source.length := by
  induction source generalizing buffer front rest with
  | nil => simpa [storeAll] using image
  | cons byte source induction =>
      have next : (buffer.store front.length byte).bytes =
          (front ++ [byte]) ++ rest.drop 1 := by
        rw [store_bytes image]
        simp
      have tail := induction next
      simp only [List.length_append, List.length_singleton, List.drop_drop]
        at tail
      simp only [storeAll, List.length_cons]
      rw [tail, Nat.add_comm 1 source.length]
      simp

theorem storeAll_written (buffer : Buffer) (index : Nat)
    {source : List UInt8} (nonempty : source ≠ []) :
    (buffer.storeAll index source).written =
      max buffer.written (index + source.length) := by
  induction source generalizing buffer index with
  | nil => contradiction
  | cons byte source induction =>
      cases source with
      | nil => rfl
      | cons second rest =>
          rw [storeAll, induction _ _ (List.cons_ne_nil second rest)]
          simp only [store, List.length_cons]
          omega

theorem strcpy_holds (buffer : Buffer) {source : List UInt8}
    (nulFree : (0 : UInt8) ∉ source) : (buffer.strcpy source).Holds source := by
  refine ⟨nulFree, buffer.bytes.drop (source ++ [0]).length, ?_⟩
  have stored := @storeAll_bytes buffer [] _ rfl (source ++ [0])
  simpa [strcpy] using stored

theorem strcpy_written (buffer : Buffer) (source : List UInt8) :
    (buffer.strcpy source).written =
      max buffer.written (source.length + 1) := by
  rw [strcpy, storeAll_written _ _ (by simp)]
  simp

theorem Holds.strcat_holds {buffer : Buffer} {text source : List UInt8}
    (holds : buffer.Holds text) (nulFree : (0 : UInt8) ∉ source) :
    (buffer.strcat source).Holds (text ++ source) := by
  obtain ⟨rest, stored⟩ := holds.stored
  have both : (0 : UInt8) ∉ text ++ source := by
    simp [holds.nulFree, nulFree]
  refine ⟨both, (0 :: rest).drop (source ++ [0]).length, ?_⟩
  rw [strcat, holds.strlen_eq, storeAll_bytes stored]
  simp

theorem Holds.strcat_written {buffer : Buffer} {text : List UInt8}
    (holds : buffer.Holds text) (source : List UInt8) :
    (buffer.strcat source).written =
      max buffer.written (text.length + source.length + 1) := by
  rw [strcat, holds.strlen_eq, storeAll_written _ _ (by simp)]
  simp [Nat.add_assoc]

/-- `buffer` is `start` after a `strcpy` and any number of `strcat` calls that
together assembled `text`. -/
structure Built (start buffer : Buffer) (text : List UInt8) : Prop where
  holds : buffer.Holds text
  written : buffer.written = max start.written (text.length + 1)

theorem Built.strcpy (start : Buffer) {source : List UInt8}
    (nulFree : (0 : UInt8) ∉ source) :
    Built start (start.strcpy source) source :=
  ⟨strcpy_holds start nulFree, strcpy_written start source⟩

theorem Built.strcat {start buffer : Buffer} {text source : List UInt8}
    (built : Built start buffer text) (nulFree : (0 : UInt8) ∉ source) :
    Built start (buffer.strcat source) (text ++ source) := by
  refine ⟨built.holds.strcat_holds nulFree, ?_⟩
  rw [built.holds.strcat_written, built.written, List.length_append]
  omega

end Buffer

/-- The bytes of an ASCII literal. -/
def ascii (text : String) : List UInt8 :=
  text.toList.map fun character => UInt8.ofNat character.toNat

end Library
