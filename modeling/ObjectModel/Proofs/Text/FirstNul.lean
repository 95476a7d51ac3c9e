import Mathlib.Order.Bounds.Defs
import ObjectModel.Proofs.Text.Lossy

/-!
# The first NUL of a text

A character of ASCII is the only one whose bytes have its byte among them, so a text has a NUL exactly when its bytes do,
and the bytes ahead of the first one are those of the characters ahead of it. The position of the first NUL is therefore a
number of bytes and not of characters.
-/

namespace ObjectModel

/-- The number of bytes ahead of the first NUL of a text. -/
def nulPosition (name : String) : Nat :=
  ((Utf8.bytesOf name).takeWhile (· ≠ 0)).length

/-- The first NUL of a text is at a position, counted in bytes: there is a NUL, there is none ahead of it, and the leads of
the text without a NUL are at most that long. -/
structure Text.FirstNul (name : String) (position : Nat) : Prop where
  nul : name.toUTF8.data[position]? = some 0
  ahead : ∀ i < position, name.toUTF8.data[i]? ≠ some 0
  longest : IsGreatest {count | ∃ lead : String, lead.toList <+: name.toList ∧ '\x00' ∉ lead.toList ∧
    lead.utf8ByteSize = count} position

namespace Utf8

variable {b : UInt8} {front behind : List Char} {name : String}

/-- A byte below 0x80 is among the bytes of a text exactly when its character is in the text. -/
theorem mem_encode_iff (hascii : b.toNat < 0x80) {cs : List Char} : b ∈ encode cs ↔ Char.ofNat b.toNat ∈ cs := by
  constructor
  · intro h
    obtain ⟨ahead, others, hsplit⟩ := List.append_of_mem h
    rw [← decodeLossy_encode cs, hsplit, decodeLossy_append_cons hascii]
    exact List.mem_append_right _ List.mem_cons_self
  · intro h
    rw [← decodeLossy_encode cs] at h
    exact mem_of_mem_decodeLossy hascii h

/-- There is a byte 0 among the bytes of a text exactly when there is a NUL in the text. -/
theorem zero_mem_encode_iff {cs : List Char} : 0 ∈ encode cs ↔ '\x00' ∈ cs :=
  mem_encode_iff (b := 0) (by decide)

/-- There is a byte 0 among the bytes of a string exactly when there is a NUL in it. -/
theorem zero_mem_bytesOf_iff : 0 ∈ bytesOf name ↔ '\x00' ∈ name.toList :=
  zero_mem_encode_iff

/-- The bytes of a text are cut at a NUL where the text is. -/
theorem bytesOf_eq_append (h : name.toList = front ++ '\x00' :: behind) :
    bytesOf name = encode front ++ 0 :: encode behind := by
  rw [bytesOf, h, encode, List.flatMap_append, List.flatMap_cons]
  rfl

/-- A lead of a text has no more bytes than the text. -/
theorem length_encode_le_of_prefix {lead : List Char} (h : lead <+: front) :
    (encode lead).length ≤ (encode front).length := by
  obtain ⟨rest, rfl⟩ := h
  rw [encode, encode, List.flatMap_append, List.length_append]
  exact Nat.le_add_right _ _

end Utf8

namespace Text

variable {name : String} {position : Nat}

/-- The bytes of a text by position. -/
theorem getElem?_toUTF8 (name : String) (i : Nat) : name.toUTF8.data[i]? = (Utf8.bytesOf name)[i]? := by
  rw [String.toUTF8, ← Utf8.toByteArray_bytesOf, List.data_toByteArray, List.getElem?_toArray]

/-- A lead of a text that has no NUL ends ahead of the first one. -/
theorem prefix_of_nul_notMem {lead front behind : List Char} (h : lead <+: front ++ '\x00' :: behind)
    (hlead : '\x00' ∉ lead) : lead <+: front := by
  rcases List.prefix_or_prefix_of_prefix h (List.prefix_append front _) with hshort | ⟨rest, rfl⟩
  · exact hshort
  · rw [List.prefix_append_right_inj] at h
    cases rest with
    | nil => exact (List.append_nil front).symm ▸ List.prefix_refl front
    | cons c rest =>
      obtain ⟨rfl, -⟩ := List.cons_prefix_cons.mp h
      exact absurd (List.mem_append_right _ List.mem_cons_self) hlead

/-- The first NUL of a text with a NUL is behind the bytes of the characters ahead of it. -/
theorem firstNul_of_eq_append {front behind : List Char} (h : name.toList = front ++ '\x00' :: behind)
    (hfront : '\x00' ∉ front) : FirstNul name (Utf8.encode front).length where
  nul := by
    rw [getElem?_toUTF8, Utf8.bytesOf_eq_append h, List.getElem?_append_right (Nat.le_refl _), Nat.sub_self]
    rfl
  ahead i hi hnul := by
    rw [getElem?_toUTF8, Utf8.bytesOf_eq_append h, List.getElem?_append_left hi] at hnul
    exact hfront (Utf8.zero_mem_encode_iff.mp (List.mem_of_getElem? hnul))
  longest := by
    constructor
    · refine ⟨String.ofList front, ?_, ?_, ?_⟩
      · rw [String.toList_ofList, h]
        exact List.prefix_append front _
      · rwa [String.toList_ofList]
      · rw [← Utf8.length_bytesOf, Utf8.bytesOf, String.toList_ofList]
    · rintro count ⟨lead, hlead, hfree, rfl⟩
      rw [← Utf8.length_bytesOf]
      exact Utf8.length_encode_le_of_prefix (prefix_of_nul_notMem (h ▸ hlead) hfree)

/-- The first NUL of a text is at the index of the first byte 0, if there is one. -/
theorem firstNul_iff_idxOf :
    FirstNul name position ↔ '\x00' ∈ name.toList ∧ (Utf8.bytesOf name).idxOf 0 = position := by
  have hfirst (hmem : '\x00' ∈ name.toList) : FirstNul name ((Utf8.bytesOf name).idxOf 0) := by
    obtain ⟨front, behind, hsplit, hfront⟩ := List.eq_append_cons_of_mem hmem
    have hbytes : 0 ∉ Utf8.encode front := Utf8.zero_mem_encode_iff.not.mpr hfront
    rw [Utf8.bytesOf_eq_append hsplit, List.idxOf_append_of_notMem hbytes, List.idxOf_cons_self]
    exact firstNul_of_eq_append hsplit hfront
  constructor
  · intro h
    have hmem : '\x00' ∈ name.toList :=
      Utf8.zero_mem_bytesOf_iff.mp (List.mem_of_getElem? ((getElem?_toUTF8 name position).symm.trans h.nul))
    have hlongest := (hfirst hmem).longest
    exact ⟨hmem, Nat.le_antisymm (h.longest.2 hlongest.1) (hlongest.2 h.longest.1)⟩
  · rintro ⟨hmem, rfl⟩
    exact hfirst hmem

/-- The number of bytes ahead of the first NUL is the index of the first byte 0. -/
theorem idxOf_bytesOf (name : String) : (Utf8.bytesOf name).idxOf 0 = nulPosition name := by
  rw [nulPosition, List.takeWhile_eq_take_findIdx_not, List.length_take, Nat.min_eq_left List.findIdx_le_length,
    List.idxOf]
  congr 1
  funext b
  simp [beq_eq_decide]

end Text

end ObjectModel
