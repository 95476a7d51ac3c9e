import ObjectModel.Text.Quoted

/-!
# C strings

Names as native code sees them: bytes ended by a NUL, so that no NUL is among them. Such a name need not be
text; a text becomes such a name when it has no NUL character.
-/

namespace ObjectModel

/-- Bytes that are not NUL. -/
structure CString where
  bytes : List UInt8
  nulFree : 0 ∉ bytes
  deriving DecidableEq

namespace CString

/-- C strings with the same bytes are the same. -/
@[ext] theorem ext {a b : CString} (h : a.bytes = b.bytes) : a = b := by
  cases a; cases b; simp_all

/-- Bytes that make no C string, with the position of the first NUL among them. -/
structure RefusedBytes where
  position : Nat
  bytes : List UInt8
  deriving DecidableEq, Repr

/-- The C string of the given bytes, or the bytes back if one of them is NUL. -/
def ofBytes (bytes : List UInt8) : Except RefusedBytes CString :=
  if h : 0 ∉ bytes then .ok ⟨bytes, h⟩ else .error ⟨bytes.idxOf 0, bytes⟩

/-- The C string of the given bytes, if none of them is NUL. -/
def ofBytes? (bytes : List UInt8) : Option CString :=
  (ofBytes bytes).toOption

/-- The C string of a text, if no character of it is NUL. -/
def ofString? (s : String) : Option CString :=
  ofBytes? (Utf8.bytesOf s)

/-- The text that a C string holds, if its bytes are text. -/
def toString? (name : CString) : Option String :=
  match Utf8.decode name.bytes with
  | .ok cs => some (String.ofList cs)
  | .error _ => none

/-- The C string in double quotes. -/
def quoted (name : CString) : String :=
  Text.quotedBytes name.bytes

/-- Bytes make the C string that has them. -/
theorem ofBytes_eq_ok_iff {bytes : List UInt8} {name : CString} : ofBytes bytes = .ok name ↔ name.bytes = bytes := by
  constructor
  · intro h
    unfold ofBytes at h
    split at h
    · cases h; rfl
    · cases h
  · rintro rfl
    exact dif_pos name.nulFree

/-- Bytes are refused exactly when there is a NUL among them; they are given back as they are, with the position of the
first NUL. -/
theorem ofBytes_eq_error_iff {bytes : List UInt8} {refused : RefusedBytes} :
    ofBytes bytes = .error refused ↔ 0 ∈ bytes ∧ refused = ⟨bytes.idxOf 0, bytes⟩ := by
  unfold ofBytes
  split
  · next h => simp [h]
  · next h => simp [Decidable.not_not.mp h, eq_comm]

/-- A C string made from bytes is the one that has them. -/
theorem ofBytes?_eq_some_iff {bytes : List UInt8} {name : CString} :
    ofBytes? bytes = some name ↔ name.bytes = bytes := by
  rw [← ofBytes_eq_ok_iff, ofBytes?]
  cases ofBytes bytes <;> simp [Except.toOption]

/-- Bytes with a NUL among them, and only those, make no C string. -/
theorem ofBytes?_eq_none_iff {bytes : List UInt8} : ofBytes? bytes = none ↔ 0 ∈ bytes := by
  rw [ofBytes?, ofBytes]
  split
  · next h => simp [h, Except.toOption]
  · next h => simp [Decidable.not_not.mp h, Except.toOption]

end CString

end ObjectModel
