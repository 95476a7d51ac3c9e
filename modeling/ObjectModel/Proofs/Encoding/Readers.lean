import ObjectModel.Access
import ObjectModel.Proofs.Encoding.Stored

/-!
# Readers of a string agree on what is malformed

Four readers look at the two fields that lead from a string to its elements: decoding, the checked read of the
characters, the checked reads of their length and memory, and the view of the elements. A missing array is refused by the
first two alike, a negative length by decoding and the checked reads alike, and everything else is decoded from the
elements that the view gives. A length of zero or less admits no element, so no reader looks at the memory then.
-/

namespace ObjectModel

/-- An operation fails with a fault of the given kind. -/
def Outcome.Fails {α : Type} (outcome : Outcome α) (kind : FaultKind) : Prop :=
  ∃ fault, outcome.value = .error fault ∧ fault.kind = kind

/-- The elements that an array shows to a reader who takes them for values of a type: as many as the length says. None
are shown, whatever the memory is, when the length is zero or less; and what memory with values of another type shows is
not told. -/
def ArrayHeader.slice? (header : ArrayHeader) (t : ElementType) : Option (List t.Value) :=
  if header.length.toInt ≤ 0 then some [] else header.elementsAs? t

namespace StringHeader

/-- The text that the character array of a string shows to a reader, which says what is read also where there is nothing
to read in memory of another type. -/
def decodeSlice? (heap : Heap) (header : StringHeader) (e : Encoding) : Option (Outcome String) :=
  match header.characters with
  | none => some (.fail .noCharacters)
  | some id => ((heap.array id).slice? e.elementType).map fun elements => e.decodeArray (heap.array id).length elements

/-- The character array of a string, if there is one, has at least as many elements of the type of the encoding as its
length says. When the length is zero or less, the memory may hold anything and may be null. -/
def Readable (heap : Heap) (header : StringHeader) (e : Encoding) : Prop :=
  ∀ id, header.characters = some id → 0 < (heap.array id).length.toInt →
    ∃ vector length values, heap.array id = ⟨vector, length, e.elementType, some values⟩ ∧
      length.toInt ≤ values.length

/-- The readers agree on a character array, which decoding has the given outcome for. -/
structure CharactersAgree (heap : Heap) (id : ArrayId) (e : Encoding) (outcome : Outcome String) : Prop where
  decode_malformed_iff : outcome.Fails .malformedMetadata ↔ (heap.array id).length.toInt < 0
  length_malformed_iff : (Access.arrayLength heap (some id)).Fails .malformedMetadata ↔
    (heap.array id).length.toInt < 0
  data_malformed_iff : (Access.arrayData heap (some id)).Fails .malformedMetadata ↔ (heap.array id).length.toInt < 0
  /-- Both checked reads fail with the same fault, so the kind and the details are the same. -/
  same_fault : ∀ fault, (Access.arrayLength heap (some id)).value = .error fault ↔
    (Access.arrayData heap (some id)).value = .error fault
  /-- The elements that the length admits are shown, and they are decoded unless the length is negative. -/
  slice : ∃ elements, (heap.array id).slice? e.elementType = some elements ∧
    elements.length = (heap.array id).length.toInt.toNat ∧
    (∀ vector length values, heap.array id = ⟨vector, length, e.elementType, some values⟩ →
      elements = values.take length.toInt.toNat) ∧
    ((heap.array id).element = e.elementType → (heap.array id).elementsAs? e.elementType = some elements) ∧
    (0 ≤ (heap.array id).length.toInt → outcome.value = (e.decode elements).map String.ofList)
  /-- Neither of these says anything about the memory. -/
  decode_empty : (heap.array id).length = 0 → outcome.value = .ok ""
  slice_empty : (heap.array id).length.toInt ≤ 0 → (heap.array id).slice? e.elementType = some []

/-- The readers agree on a string, which decoding has the given outcome for. -/
structure ReadersAgree (heap : Heap) (header : StringHeader) (e : Encoding) (outcome : Outcome String) : Prop where
  reference_iff : outcome.Fails .invalidReference ↔ (Access.stringCharacters (some header)).Fails .invalidReference
  characters : ∀ id, (Access.stringCharacters (some header)).value = .ok id → CharactersAgree heap id e outcome

end StringHeader

variable {heap : Heap} {header : StringHeader} {e : Encoding} {id : ArrayId}

namespace Access

/-- An array whose length is negative is refused. -/
theorem checkedArray_of_neg (h : (heap.array id).length.toInt < 0) : checkedArray heap (some id) =
    .failWith (.negativeLength (heap.array id).length) (.negativeLength (heap.array id).length) :=
  if_pos (Int32.lt_iff_toInt_lt.mpr h)

/-- An array whose length is not negative is accepted, and nothing is reported. -/
theorem checkedArray_of_nonneg (h : 0 ≤ (heap.array id).length.toInt) :
    checkedArray heap (some id) = .ok (heap.array id) :=
  if_neg fun hneg => Int.not_lt.mpr h (Int32.lt_iff_toInt_lt.mp hneg)

/-- Whatever is read of an array that passes the check, it fails as malformed exactly for a negative length. -/
theorem fails_map_checkedArray_iff {α : Type} (read : ArrayHeader → α) :
    ((checkedArray heap (some id)).map read).Fails .malformedMetadata ↔ (heap.array id).length.toInt < 0 := by
  by_cases hneg : (heap.array id).length.toInt < 0
  · rw [checkedArray_of_neg hneg]
    exact iff_of_true ⟨_, rfl, rfl⟩ hneg
  · rw [checkedArray_of_nonneg (Int.not_lt.mp hneg)]
    exact iff_of_false (by rintro ⟨_, ⟨⟩, -⟩) hneg

end Access

/-- Where the types are the same, a reader is shown the elements of the array. -/
theorem ArrayHeader.slice?_eq_elementsAs? {header : ArrayHeader} {t : ElementType} (h : header.element = t) :
    header.slice? t = header.elementsAs? t := by
  rw [slice?]
  split
  · next hlength =>
    subst h
    rw [elementsAs?, dif_pos rfl, elements, Int.toNat_of_nonpos hlength, List.take_zero]
  · rfl

namespace StringHeader

/-- What a client may ask for is what the array shows. -/
theorem decode?_eq_decodeSlice? (h : ∀ id, header.characters = some id → (heap.array id).element = e.elementType) :
    header.decode? heap e = header.decodeSlice? heap e := by
  rw [decode?, decodeSlice?]
  cases hcharacters : header.characters with
  | none => rfl
  | some id =>
    dsimp only
    rw [ArrayHeader.decode?, ArrayHeader.slice?_eq_elementsAs? (h id hcharacters)]

/-- A readable array shows as many elements as its length says. -/
theorem Readable.slice (h : header.Readable heap e) (hid : header.characters = some id) :
    ∃ elements, (heap.array id).slice? e.elementType = some elements ∧
      elements.length = (heap.array id).length.toInt.toNat ∧
      ∀ vector length values, heap.array id = ⟨vector, length, e.elementType, some values⟩ →
        elements = values.take length.toInt.toNat := by
  by_cases hpositive : 0 < (heap.array id).length.toInt
  · obtain ⟨vector, length, values, harray, hlength⟩ := h id hid hpositive
    rw [harray] at hpositive ⊢
    refine ⟨values.take length.toInt.toNat, ?_, ?_, ?_⟩
    · rw [ArrayHeader.slice?, if_neg (Int.not_le.mpr hpositive), ArrayHeader.elementsAs?, dif_pos rfl]
      rfl
    · exact List.length_take_of_le (Int.toNat_le.mpr hlength)
    · intro other otherLength others heq
      cases heq
      rfl
  · have hnone := Int.not_lt.mp hpositive
    refine ⟨[], if_pos hnone, ?_, ?_⟩
    · rw [Int.toNat_of_nonpos hnone]
      rfl
    · intro vector length values harray
      rw [harray] at hnone
      rw [Int.toNat_of_nonpos hnone, List.take_zero]

/-- Decoding shown elements fails for a negative length, and else only because they violate the encoding. -/
theorem decodeArray_error_cases {length : Int32} {elements : List e.elementType.Value} {fault : Fault}
    (h : (e.decodeArray length elements).value = .error fault) :
    length.toInt < 0 ∧ fault.kind = .malformedMetadata ∨ 0 ≤ length.toInt ∧ fault.kind = .invalidEncoding := by
  by_cases hneg : length.toInt < 0
  · rw [Encoding.decodeArray, if_pos (Int32.lt_iff_toInt_lt.mpr hneg)] at h
    cases h
    exact .inl ⟨hneg, rfl⟩
  · rw [decodeArray_of_nonneg (Int.not_lt.mp hneg)] at h
    exact .inr ⟨Int.not_lt.mp hneg, Encoding.kind_of_decode_error (map_eq_error_iff.mp h)⟩

/-- Decoding shown elements fails as malformed exactly for a negative length. -/
theorem fails_decodeArray_iff {length : Int32} {elements : List e.elementType.Value} :
    (e.decodeArray length elements).Fails .malformedMetadata ↔ length.toInt < 0 := by
  constructor
  · rintro ⟨fault, hfault, hkind⟩
    rcases decodeArray_error_cases hfault with ⟨hneg, -⟩ | ⟨-, hother⟩
    · exact hneg
    · cases hkind.symm.trans hother
  · intro hneg
    rw [Encoding.decodeArray, if_pos (Int32.lt_iff_toInt_lt.mpr hneg)]
    exact ⟨_, rfl, rfl⟩

/-- No elements are an empty text. -/
theorem decode_nil (e : Encoding) : e.decode [] = .ok [] := by
  rw [Encoding.decode_eq_ok_iff]
  cases e <;> rfl

/-- The readers agree on the elements that an array shows. -/
theorem charactersAgree_of_slice {elements : List e.elementType.Value}
    (hslice : (heap.array id).slice? e.elementType = some elements)
    (hlength : elements.length = (heap.array id).length.toInt.toNat)
    (hfirst : ∀ vector length values, heap.array id = ⟨vector, length, e.elementType, some values⟩ →
      elements = values.take length.toInt.toNat) :
    CharactersAgree heap id e (e.decodeArray (heap.array id).length elements) where
  decode_malformed_iff := fails_decodeArray_iff
  length_malformed_iff := Access.fails_map_checkedArray_iff _
  data_malformed_iff := Access.fails_map_checkedArray_iff _
  same_fault fault := map_eq_error_iff.trans map_eq_error_iff.symm
  slice := by
    refine ⟨elements, hslice, hlength, hfirst, fun htype => ?_, fun hnonneg => ?_⟩
    · exact (ArrayHeader.slice?_eq_elementsAs? htype).symm.trans hslice
    · rw [decodeArray_of_nonneg hnonneg]
  decode_empty hzero := by
    rw [hzero] at hlength ⊢
    rw [List.eq_nil_of_length_eq_zero hlength, decodeArray_of_nonneg (by decide), decode_nil]
    rfl
  slice_empty hnone := if_pos hnone

/-- The readers of a readable string agree. Decoding has an outcome, which is the one that a client is given where the
array is one of the encoding's type. -/
theorem readers_agree (h : header.Readable heap e) : ∃ outcome, header.decodeSlice? heap e = some outcome ∧
    ((∀ id, header.characters = some id → (heap.array id).element = e.elementType) →
      header.decode? heap e = some outcome) ∧
    header.ReadersAgree heap e outcome := by
  cases hcharacters : header.characters with
  | none =>
    have hdecode : header.decodeSlice? heap e = some (.fail .noCharacters) := by rw [decodeSlice?, hcharacters]
    have hread : Access.stringCharacters (some header) = .failWith .noCharacters .noCharacters := by
      rw [Access.stringCharacters, hcharacters]
    refine ⟨_, hdecode, fun _ => ?_, ?_, fun id hid => ?_⟩
    · rw [decode?, hcharacters]
    · rw [hread]
      exact iff_of_true ⟨_, rfl, rfl⟩ ⟨_, rfl, rfl⟩
    · rw [hread] at hid
      cases hid
  | some id =>
    obtain ⟨elements, hslice, hlength, hfirst⟩ := h.slice hcharacters
    have hdecode : header.decodeSlice? heap e = some (e.decodeArray (heap.array id).length elements) := by
      rw [decodeSlice?, hcharacters]
      dsimp only
      rw [hslice, Option.map_some]
    have hread : Access.stringCharacters (some header) = .ok id := by rw [Access.stringCharacters, hcharacters]
    have hagree := charactersAgree_of_slice hslice hlength hfirst
    refine ⟨_, hdecode, fun htype => ?_, ?_, fun other hother => ?_⟩
    · rw [decode?_eq_decodeSlice? fun other hother => htype other (hcharacters ▸ hother), hdecode]
    · rw [hread]
      refine iff_of_false ?_ (by rintro ⟨_, ⟨⟩, -⟩)
      rintro ⟨fault, hfault, hkind⟩
      rcases decodeArray_error_cases hfault with ⟨-, hother⟩ | ⟨-, hother⟩ <;> cases hkind.symm.trans hother
    · rw [hread] at hother
      cases hother
      exact hagree

/-- Two of three units are read. -/
theorem readers_agree_twoOfThree :
    let heap := (Heap.empty.addArray ⟨none, 2, .char, some [0x68, 0x69, 0xD800]⟩).1
    let header : StringHeader := ⟨none, some ⟨0⟩⟩
    header.Readable heap .utf16 ∧ ∃ outcome, header.decodeSlice? heap .utf16 = some outcome ∧
      header.ReadersAgree heap .utf16 outcome ∧ outcome.value = .ok "hi" := by
  intro heap header
  have hreadable : header.Readable heap .utf16 := by
    rintro id hid -
    cases hid
    exact ⟨none, 2, [0x68, 0x69, 0xD800], rfl, by decide⟩
  obtain ⟨outcome, hdecode, -, hagree⟩ := readers_agree hreadable
  refine ⟨hreadable, outcome, hdecode, hagree, ?_⟩
  obtain ⟨elements, hslice, -, -, -, htext⟩ := (hagree.characters ⟨0⟩ rfl).slice
  cases hslice
  exact (htext (by decide)).trans rfl

end StringHeader

end ObjectModel
