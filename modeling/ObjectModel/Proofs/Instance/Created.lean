import ObjectModel.Proofs.Heap.Closed
import ObjectModel.Proofs.Instance

/-!
# What instances are created for

An instance is created for a class of the fitting kind, and a string also for a class of its characters. Their headers
lead to the dispatch vectors of these classes, and creation adds no more to the heap than the header of one array.
-/

namespace ObjectModel

/-- The array of an instance: that of an array instance, or the characters of a string. -/
def Instance.array? : Instance → Option ArrayId
  | object .. => none
  | array _ id => some id
  | string _ _ _ id => some id

/-- An instance with the classes it was created for, its own and that of its characters: they are of the fitting kinds,
and the headers lead to their dispatch vectors. -/
inductive Instance.MadeFor (heap : Heap) (c : LoadedClass) : Option LoadedClass → Instance → Prop
  | object (hkind : c.info.kind = .object) : MadeFor heap c none (.object c ⟨some c.vector⟩)
  | array {t : ElementType} {values : List t.Value} {id : ArrayId} (hkind : c.info.kind = .array t)
      (hstored : heap.arrays[id.index]? = some ⟨some c.vector, Int32.ofNat values.length, t, some values⟩) :
      MadeFor heap c none (.array c id)
  | string {charsClass : LoadedClass} {e : Encoding} {values : List e.elementType.Value} {id : ArrayId}
      (hkind : c.info.kind = .string) (hchars : charsClass.info.kind = .array e.elementType)
      (hstored : heap.arrays[id.index]? =
        some ⟨some charsClass.vector, Int32.ofNat values.length, e.elementType, some values⟩) :
      MadeFor heap c (some charsClass) (.string c e ⟨some c.vector, some id⟩ id)

/-- The result of creating an instance for its classes: at most one array is added to the heap. -/
structure Instance.Created (heap : Heap) (c : LoadedClass) (charsClass : Option LoadedClass)
    (made : Heap × Instance) : Prop where
  heap : made.1 = heap ∨ ∃ header, made.1 = (heap.addArray header).1
  value : made.2.MadeFor made.1 c charsClass

namespace Instance

variable {heap later : Heap} {c : LoadedClass} {charsClass : Option LoadedClass} {value : Instance}
  {made : Heap × Instance}

section MadeFor

/-- An instance stays made for its classes when the heap grows. -/
theorem MadeFor.mono (h : value.MadeFor heap c charsClass) (hgrows : heap.Grows later) :
    value.MadeFor later c charsClass := by
  cases h with
  | object hkind => exact .object hkind
  | array hkind hstored => exact .array hkind (hgrows.arrays _ _ hstored)
  | string hkind hchars hstored => exact .string hkind hchars (hgrows.arrays _ _ hstored)

/-- The class of an instance is the one it was made for. -/
theorem MadeFor.ofClass_eq (h : value.MadeFor heap c charsClass) : value.ofClass = c := by
  cases h <;> rfl

/-- The header of an instance leads to the dispatch vector of its class. -/
theorem MadeFor.header_eq (h : value.MadeFor heap c charsClass) : value.header heap = ⟨some c.vector⟩ := by
  cases h with
  | object => rfl
  | array _ hstored => rw [header, Heap.array, hstored, Option.getD_some, ArrayHeader.object]
  | string => rfl

/-- The header of the characters of a string leads to the dispatch vector of their class. -/
theorem MadeFor.characters_eq {chars : LoadedClass} (h : value.MadeFor heap c (some chars)) {id : ArrayId}
    (hid : value.array? = some id) : (heap.array id).object = ⟨some chars.vector⟩ := by
  cases h with
  | string _ _ hstored =>
    cases hid
    rw [Heap.array, hstored, Option.getD_some, ArrayHeader.object]

/-- The array of an instance is on the heap. -/
theorem MadeFor.exists_array (h : value.MadeFor heap c charsClass) {id : ArrayId} (hid : value.array? = some id) :
    ∃ header, heap.arrays[id.index]? = some header := by
  cases h with
  | object => cases hid
  | array _ hstored =>
    cases hid
    exact ⟨_, hstored⟩
  | string _ _ hstored =>
    cases hid
    exact ⟨_, hstored⟩

end MadeFor

section Creating

/-- Creation changes nothing that is on the heap. -/
theorem Created.grows (h : Created heap c charsClass made) : heap.Grows made.1 := by
  rcases h.heap with hsame | ⟨header, hadded⟩
  · rw [hsame]
    exact .refl heap
  · rw [hadded]
    exact heap.grows_addArray header

/-- Creation keeps a heap closed. -/
theorem Created.closed (h : Created heap c charsClass made) (hclosed : heap.Closed) : made.1.Closed := by
  rcases h.heap with hsame | ⟨header, hadded⟩
  · rw [hsame]
    exact hclosed
  · rw [hadded]
    exact hclosed.addArray header

/-- A class passes the check for a kind exactly when it has that kind. -/
theorem expectKind_eq_ok_iff {expected : TypeKind} {u : Unit} :
    c.expectKind expected = .ok u ↔ c.info.kind = expected := by
  rw [LoadedClass.expectKind]
  split <;> simp_all

/-- An allocated array stands on the heap as it was made. -/
theorem stored_of_allocateArray {t : ElementType} {values : List t.Value} {id : ArrayId}
    (h : heap.allocateArray c t values = .ok (later, id)) :
    c.info.kind = .array t ∧ (∃ header, later = (heap.addArray header).1) ∧
      later.arrays[id.index]? = some ⟨some c.vector, Int32.ofNat values.length, t, some values⟩ := by
  obtain ⟨hkind, -, hmade⟩ := Heap.allocateArray_eq_ok_iff.mp h
  cases hmade
  exact ⟨hkind, ⟨_, rfl⟩, Array.getElem?_push_size⟩

/-- An object is created for a class of plain objects. -/
theorem created_newObject (heap : Heap) (h : newObject c = .ok value) : Created heap c none (heap, value) := by
  obtain ⟨_, hkind, rfl⟩ := map_eq_ok_iff.mp h
  exact ⟨.inl rfl, .object (expectKind_eq_ok_iff.mp hkind)⟩

/-- An array is created for a class of its element type. -/
theorem created_newArray {t : ElementType} {values : List t.Value} (h : newArray heap c t values = .ok made) :
    Created heap c none made := by
  obtain ⟨⟨later, id⟩, hallocate, rfl⟩ := map_eq_ok_iff.mp h
  obtain ⟨hkind, hadded, hstored⟩ := stored_of_allocateArray hallocate
  exact ⟨.inr hadded, .array hkind hstored⟩

/-- Strings are created for string classes only. -/
theorem kind_of_newString {chars : LoadedClass} {text : String} {e : Encoding}
    (h : newString heap c chars text e = .ok made) : c.info.kind = .string := by
  rw [newString] at h
  split at h
  · cases h
  · next hkind => exact expectKind_eq_ok_iff.mp hkind

/-- A string is created for a string class, and its characters for a class of the element type of the encoding. -/
theorem created_newString {chars : LoadedClass} {text : String} {e : Encoding}
    (h : newString heap c chars text e = .ok made) : Created heap c (some chars) made := by
  obtain ⟨later, value⟩ := made
  obtain ⟨values, id, -, hallocate, rfl⟩ := allocated_of_newString h
  obtain ⟨hchars, hadded, hstored⟩ := stored_of_allocateArray hallocate
  exact ⟨.inr hadded, .string (kind_of_newString h) hchars hstored⟩

/-- A string for a table is one of its string class, with characters of its array class for the configured encoding. -/
theorem newStringIn_eq_ok_iff {table : ClassTable} {config : Config} {text : String} :
    newStringIn heap table config text = .ok made ↔
      ∃ c chars, table.byString? stringClassName = some c ∧
        table.byString? config.encoding.elementType.arrayDescriptor = some chars ∧
        newString heap c chars text config.encoding = .ok made := by
  rw [newStringIn, requiredClass, requiredClass]
  cases table.byString? stringClassName with
  | none => simp
  | some c =>
    cases table.byString? config.encoding.elementType.arrayDescriptor with
    | none => simp
    | some chars => simp

end Creating

end Instance

end ObjectModel
