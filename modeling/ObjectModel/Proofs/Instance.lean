import ObjectModel.Access
import ObjectModel.Instance
import ObjectModel.Proofs.Encoding.Stored
import ObjectModel.Proofs.Heap.Growth

/-!
# Strings keep their text

A string stores the elements of its text in a character array whose header leads back to them. Through the string,
through its header and through the address of the array the same text is read, and the stored length is the number of
elements that the text needs.
-/

namespace ObjectModel

/-- A number that an array can store is stored as it is. -/
theorem toInt_ofNat_of_le_maxLength {n : Nat} (h : n ≤ maxLength) : (Int32.ofNat n).toInt = n :=
  Int32.toInt_ofNat_of_lt (Nat.lt_of_le_of_lt h (by decide))

/-- All elements are admitted when the stored length is their number. -/
theorem ArrayHeader.elementsAs?_of_stored {vector : Option VectorId} {t : ElementType} {values : List t.Value}
    (h : values.length ≤ maxLength) :
    (⟨vector, Int32.ofNat values.length, t, some values⟩ : ArrayHeader).elementsAs? t = some values := by
  simp only [elementsAs?, elements, Option.getD_some, toInt_ofNat_of_le_maxLength h, Int.toNat_natCast,
    List.take_length, dite_true]

namespace Heap

variable {heap later : Heap} {c : LoadedClass} {t : ElementType} {values : List t.Value} {id : ArrayId}

/-- An array is allocated for a class of its element type, unless it is too long. -/
theorem allocateArray_of_le (hkind : c.info.kind = .array t) (h : values.length ≤ maxLength) :
    heap.allocateArray c t values = .ok (heap.addArray ⟨some c.vector, Int32.ofNat values.length, t, some values⟩) :=
  allocateArray_eq_ok_iff.mpr ⟨hkind, h, rfl⟩

/-- The header of an allocated array has the dispatch vector of the class, the number of elements and the elements. -/
theorem array_of_allocateArray (h : heap.allocateArray c t values = .ok (later, id)) :
    values.length ≤ maxLength ∧ later.array id = ⟨some c.vector, Int32.ofNat values.length, t, some values⟩ := by
  obtain ⟨-, hlength, hmade⟩ := allocateArray_eq_ok_iff.mp h
  cases hmade
  exact ⟨hlength, heap.array_addArray _⟩

end Heap

namespace Instance

variable {heap later : Heap} {c charsClass : LoadedClass} {text : String} {e : Encoding} {value : Instance}

/-- A string is created when its class and that of its characters fit and its text is encoded in few enough elements. -/
theorem newString_of_encode {values : List e.elementType.Value} (hkind : c.info.kind = .string)
    (hchars : charsClass.info.kind = .array e.elementType) (hencode : e.encode text.toList = .ok values)
    (hlength : values.length ≤ maxLength) : ∃ made, newString heap c charsClass text e = .ok made := by
  rw [newString, LoadedClass.expectKind, if_pos hkind]
  simp only [hencode, Heap.allocateArray_of_le hchars hlength]
  exact ⟨_, rfl⟩

/-- A text that the encoding has no elements for is refused. -/
theorem newString_of_encode_error {fault : Fault} (hkind : c.info.kind = .string)
    (hencode : e.encode text.toList = .error fault) : newString heap c charsClass text e = .error fault := by
  rw [newString, LoadedClass.expectKind, if_pos hkind]
  simp only [hencode]

/-- A text that needs more elements than an array can have is refused. -/
theorem newString_of_maxLength_lt {values : List e.elementType.Value} (hkind : c.info.kind = .string)
    (hchars : charsClass.info.kind = .array e.elementType) (hencode : e.encode text.toList = .ok values)
    (hlength : maxLength < values.length) :
    newString heap c charsClass text e = .error (.tooManyElements values.length) := by
  have hallocate : heap.allocateArray charsClass e.elementType values = .error (.tooManyElements values.length) := by
    rw [Heap.allocateArray, LoadedClass.expectKind, if_pos hchars]
    exact if_pos hlength
  rw [newString, LoadedClass.expectKind, if_pos hkind]
  simp only [hencode, hallocate]
  rfl

/-- A created string leads to an array that was allocated for the elements of its text. -/
theorem allocated_of_newString (h : newString heap c charsClass text e = .ok (later, value)) :
    ∃ values id, e.encode text.toList = .ok values ∧
      heap.allocateArray charsClass e.elementType values = .ok (later, id) ∧
      value = .string c e ⟨some c.vector, some id⟩ id := by
  rw [newString] at h
  split at h
  · cases h
  · split at h
    · cases h
    · next values hencode =>
      obtain ⟨allocated, hallocate, hmade⟩ := map_eq_ok_iff.mp h
      cases hmade
      exact ⟨values, allocated.2, hencode, hallocate, rfl⟩

/-- Strings keep their text: creating one fails only for a character that Latin-1 lacks, and the string, its header
and its character array all give back the text; the array has as many elements as the text needs. -/
theorem newString_roundTrip (hkind : c.info.kind = .string) (hchars : charsClass.info.kind = .array e.elementType)
    (hlength : e.lengthOf text ≤ maxLength) :
    ((∃ made, newString heap c charsClass text e = .ok made) ↔
        ¬(e = .latin1 ∧ ∃ ch ∈ text.toList, 0xFF < ch.toNat)) ∧
      ∀ later value, newString heap c charsClass text e = .ok (later, value) →
        ∃ header id, value = .string c e header id ∧
          value.text? later = some (.ok text) ∧
          header.decode? later e = some (.ok text) ∧
          (Access.stringCharacters (some header)).value = .ok id ∧
          (later.array id).decode? e = some (.ok text) ∧
          ∃ length, (Access.arrayLength later (some id)).value = .ok length ∧ length.toInt = e.lengthOf text := by
  constructor
  · refine Iff.trans ⟨?_, ?_⟩ e.encode_isOk_iff
    · rintro ⟨⟨later, value⟩, hmade⟩
      obtain ⟨values, id, hencode, -⟩ := allocated_of_newString hmade
      exact ⟨values, hencode⟩
    · rintro ⟨values, hencode⟩
      exact newString_of_encode hkind hchars hencode (Encoding.length_of_encode hencode ▸ hlength)
  · intro later value hmade
    obtain ⟨values, id, hencode, hallocate, rfl⟩ := allocated_of_newString hmade
    obtain ⟨hbound, harray⟩ := Heap.array_of_allocateArray hallocate
    have hstored : (later.array id).length.toInt = values.length := by
      rw [harray]
      exact toInt_ofNat_of_le_maxLength hbound
    have hstores : StringHeader.Stores later ⟨some c.vector, some id⟩ e values :=
      ⟨id, rfl, by rw [harray]; exact ArrayHeader.elementsAs?_of_stored hbound, hstored⟩
    have hdecode : StringHeader.decode? later ⟨some c.vector, some id⟩ e = some (.ok text) := by
      rw [StringHeader.decode?_of_stores hstores, StringHeader.value_eq_ok_iff.mpr hencode]
      rfl
    refine ⟨_, id, rfl, hdecode, hdecode, rfl, hdecode, (later.array id).length, ?_, ?_⟩
    · have hnonneg : ¬(later.array id).length < 0 := by
        rw [Int32.lt_iff_toInt_lt, hstored]
        exact Int.not_lt.mpr (Int.natCast_nonneg _)
      rw [Access.arrayLength, Access.checkedArray, if_neg hnonneg]
      rfl
    · rw [hstored, Encoding.length_of_encode hencode]

/-- A text of one, two and four bytes, with a NUL, in UTF-8. -/
theorem newString_roundTrip_utf8 :
    let c : LoadedClass := ⟨⟨⟨[83], by decide⟩, ⟨0⟩, .string⟩, 0, ⟨0⟩⟩
    let charsClass : LoadedClass := ⟨⟨⟨[91, 66], by decide⟩, ⟨1⟩, .array .byte⟩, 0, ⟨1⟩⟩
    ∃ later value, newString .empty c charsClass "a\x00é😀" .utf8 = .ok (later, value) ∧
      value.text? later = some (.ok "a\x00é😀") := by
  intro c charsClass
  have hlength : Encoding.utf8.lengthOf "a\x00é😀" ≤ maxLength := by decide
  obtain ⟨hmade, hread⟩ := @newString_roundTrip .empty c charsClass _ .utf8 rfl rfl hlength
  obtain ⟨⟨later, value⟩, hnew⟩ := hmade.mpr (fun h => nomatch h.1)
  obtain ⟨header, id, -, htext, -⟩ := hread later value hnew
  exact ⟨later, value, hnew, htext⟩

end Instance

end ObjectModel
