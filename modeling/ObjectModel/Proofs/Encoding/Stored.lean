import ObjectModel.Encoding.Stored
import ObjectModel.Proofs.Encoding.Codec

/-!
# Reading character arrays

A string is decoded from the elements of its character array alone. It has a text exactly when they are well-formed in
the reader's encoding; the text then encodes to these elements again, so that no other array decodes to it.
-/

namespace ObjectModel

/-- The character array of a string holds the given elements, and its header stores their number. -/
def StringHeader.Stores (heap : Heap) (header : StringHeader) (e : Encoding)
    (values : List e.elementType.Value) : Prop :=
  ∃ id, header.characters = some id ∧ (heap.array id).elementsAs? e.elementType = some values ∧
    (heap.array id).length.toInt = values.length

namespace StringHeader

variable {heap : Heap} {header : StringHeader} {e : Encoding} {values : List e.elementType.Value}

/-- Elements that are decoded with a stored length that is not negative give their text or their fault, unreported. -/
theorem decodeArray_of_nonneg {length : Int32} (h : 0 ≤ length.toInt) (values : List e.elementType.Value) :
    e.decodeArray length values = ⟨(e.decode values).map String.ofList, []⟩ := by
  have hlength : ¬length < 0 := by
    rw [Int32.lt_iff_toInt_lt]
    exact Int.not_lt.mpr h
  rw [Encoding.decodeArray, if_neg hlength]
  cases e.decode values <;> rfl

/-- A string is decoded from the elements of its character array. -/
theorem decode?_of_stores (h : header.Stores heap e values) :
    header.decode? heap e = some ⟨(e.decode values).map String.ofList, []⟩ := by
  obtain ⟨id, hcharacters, helements, hlength⟩ := h
  rw [decode?, hcharacters]
  simp only [ArrayHeader.decode?, helements, Option.map_some]
  rw [decodeArray_of_nonneg (by rw [hlength]; exact Int.natCast_nonneg _)]

/-- A stored string decodes to a text exactly when the text encodes to its elements. -/
theorem value_eq_ok_iff {text : String} :
    (e.decode values).map String.ofList = .ok text ↔ e.encode text.toList = .ok values := by
  rw [← Encoding.decode_eq_ok_iff, map_eq_ok_iff]
  constructor
  · rintro ⟨cs, hdecode, rfl⟩
    rw [hdecode, String.toList_ofList]
  · intro hdecode
    exact ⟨text.toList, hdecode, String.ofList_toList⟩

/-- Decoding is exact: a stored string has a text exactly when its elements are well-formed, fails as invalid in the
encoding otherwise, and its text encodes to the elements, which are the only ones that decode to it. -/
theorem decode_exact (h : header.Stores heap e values) :
    ∃ outcome, header.decode? heap e = some outcome ∧
      ((∃ text, outcome.value = .ok text) ↔ e.WellFormed values) ∧
      (¬e.WellFormed values → ∃ fault, outcome.value = .error fault ∧ fault.kind = .invalidEncoding) ∧
      ∀ text, outcome.value = .ok text →
        e.encode text.toList = .ok values ∧
          ∀ (otherHeap : Heap) (other : StringHeader) (otherValues : List e.elementType.Value) (otherOutcome),
            other.Stores otherHeap e otherValues → other.decode? otherHeap e = some otherOutcome →
              otherOutcome.value = .ok text → otherValues = values := by
  refine ⟨_, decode?_of_stores h, ?_, fun hmalformed => ?_, fun text htext => ⟨value_eq_ok_iff.mp htext, ?_⟩⟩
  · rw [e.wellFormed_iff]
    cases e.decode values <;> simp [Except.map]
  · cases hdecode : e.decode values with
    | error fault => exact ⟨fault, rfl, Encoding.kind_of_decode_error hdecode⟩
    | ok cs => exact absurd (e.wellFormed_iff.mpr ⟨cs, hdecode⟩) hmalformed
  · intro otherHeap other otherValues otherOutcome hother hdecode hsame
    cases (decode?_of_stores hother).symm.trans hdecode
    have hvalues := value_eq_ok_iff.mp hsame
    rw [value_eq_ok_iff.mp htext] at hvalues
    exact (Except.ok.inj hvalues).symm

/-- The two bytes of a character in a character array. -/
theorem decode_exact_twoBytes :
    let heap := (Heap.empty.addArray ⟨none, 2, .byte, some [-61, -87]⟩).1
    let header : StringHeader := ⟨none, some ⟨0⟩⟩
    header.Stores heap .utf8 [-61, -87] ∧
      ∃ outcome, header.decode? heap .utf8 = some outcome ∧
        ((∃ text, outcome.value = .ok text) ↔ Encoding.utf8.WellFormed [-61, -87]) := by
  intro heap header
  have hstores : header.Stores heap .utf8 [-61, -87] := ⟨⟨0⟩, rfl, rfl, rfl⟩
  obtain ⟨outcome, hdecode, hiff, -⟩ := decode_exact hstores
  exact ⟨hstores, outcome, hdecode, hiff⟩

end StringHeader

end ObjectModel
