import ObjectModel.Encoding.Codec
import ObjectModel.Proofs.Result
import ObjectModel.Proofs.Text.Utf16
import ObjectModel.Proofs.Text.Utf8

/-!
# Encoding and decoding undo each other

In each encoding elements decode to a text exactly when that text encodes to these elements. Elements that decode are
the well-formed ones, which the two Unicode encodings define by themselves and which are all elements in Latin-1.
-/

namespace ObjectModel.Encoding

/-- The elements that an encoding admits. -/
def WellFormed : (e : Encoding) → List e.elementType.Value → Prop
  | .utf16, units => Utf16.WellFormed units
  | .latin1, _ => True
  | .utf8, bytes => Utf8.WellFormed (bytes.map Int8.toUInt8)

/-- How many elements a text needs: two for a character above U+FFFF and one for any other in UTF-16, one for each
character in Latin-1, and its bytes in UTF-8. -/
def lengthOf : Encoding → String → Nat
  | .utf16, text => (text.toList.map fun c => if 0xFFFF < c.toNat then 2 else 1).sum
  | .latin1, text => text.length
  | .utf8, text => text.utf8ByteSize

/-- The signed reading of a byte and the unsigned one are inverse to each other. -/
theorem map_toUInt8_eq_iff {values : List Int8} {bytes : List UInt8} :
    bytes = values.map Int8.toUInt8 ↔ bytes.map UInt8.toInt8 = values := by
  constructor
  · rintro rfl
    rw [List.map_map]
    exact (List.map_congr_left fun b _ => Int8.toInt8_toUInt8 b).trans (List.map_id values)
  · rintro rfl
    rw [List.map_map]
    exact ((List.map_congr_left fun b _ => UInt8.toUInt8_toInt8 b).trans (List.map_id bytes)).symm

/-- A text is encoded in Latin-1 exactly when no character lies above U+00FF. -/
theorem encode_latin1_eq_ok_iff {cs : List Char} {values : List Int8} :
    Encoding.latin1.encode cs = .ok values ↔
      (∀ c ∈ cs, c.toNat ≤ latin1Last) ∧ cs.map (fun c => (UInt8.ofNat c.toNat).toInt8) = values := by
  simp only [encode]
  split
  · next c hc =>
    obtain ⟨hwide, hmem⟩ := And.intro (List.find?_some hc) (List.mem_of_find?_eq_some hc)
    simp only [reduceCtorEq, false_iff, not_and]
    intro hnarrow
    exact absurd (of_decide_eq_true hwide) (Nat.not_lt.mpr (hnarrow c hmem))
  · next hnone =>
    have hnarrow : ∀ c ∈ cs, c.toNat ≤ latin1Last := fun c hc =>
      Nat.not_lt.mp fun hwide => List.find?_eq_none.mp hnone c hc (decide_eq_true hwide)
    simp only [Except.ok.injEq]
    exact ⟨fun h => ⟨hnarrow, h⟩, fun h => h.2⟩

/-- A Latin-1 byte is the code point of its character. -/
theorem toNat_latin1 (b : Int8) : (Char.ofNat (Int8.toUInt8 b).toNat).toNat = (Int8.toUInt8 b).toNat := by
  have := (Int8.toUInt8 b).toNat_lt
  exact Text.toNat_ofNat (Or.inl (by omega))

/-- Elements decode to a text exactly when that text encodes to these elements. -/
theorem decode_eq_ok_iff (e : Encoding) {values : List e.elementType.Value} {cs : List Char} :
    e.decode values = .ok cs ↔ e.encode cs = .ok values := by
  cases e with
  | utf16 =>
    simp only [decode, encode, Except.ok.injEq, mapError_eq_ok_iff]
    exact Utf16.decode_eq_ok_iff
  | latin1 =>
    rw [encode_latin1_eq_ok_iff]
    simp only [decode, Except.ok.injEq]
    constructor
    · rintro rfl
      constructor
      · intro c hc
        obtain ⟨b, -, rfl⟩ := List.mem_map.mp hc
        have := (Int8.toUInt8 b).toNat_lt
        rw [toNat_latin1, latin1Last]
        omega
      · rw [List.map_map]
        refine (List.map_congr_left fun b _ => ?_).trans (List.map_id values)
        simp only [Function.comp_apply, toNat_latin1, UInt8.ofNat_toNat, id_eq]
        exact Int8.toInt8_toUInt8 b
    · rintro ⟨hnarrow, rfl⟩
      rw [List.map_map]
      refine (List.map_congr_left fun c hc => ?_).trans (List.map_id cs)
      have hbyte : (UInt8.ofNat c.toNat).toNat = c.toNat := by
        have := hnarrow c hc
        rw [latin1Last] at this
        rw [UInt8.toNat_ofNat']
        omega
      simp only [Function.comp_apply, UInt8.toUInt8_toInt8, hbyte, Char.ofNat_toNat, id_eq]
  | utf8 =>
    simp only [decode, encode, Except.ok.injEq, mapError_eq_ok_iff]
    rw [← map_toUInt8_eq_iff, Utf8.decode_eq_ok_iff]

/-- The elements that decode to a text, and no others, are well-formed. -/
theorem wellFormed_iff (e : Encoding) {values : List e.elementType.Value} :
    e.WellFormed values ↔ ∃ cs, e.decode values = .ok cs := by
  cases e with
  | utf16 =>
    rw [WellFormed, Utf16.wellFormed_iff]
    simp only [decode, mapError_eq_ok_iff]
  | latin1 => simp [WellFormed, decode]
  | utf8 =>
    rw [WellFormed, Utf8.wellFormed_iff]
    simp only [decode, mapError_eq_ok_iff, Utf8.decode_eq_ok_iff]

/-- Decoding fails only because the encoding is violated. -/
theorem kind_of_decode_error {e : Encoding} {values : List e.elementType.Value} {fault : Fault}
    (h : e.decode values = .error fault) : fault.kind = .invalidEncoding := by
  cases e with
  | utf16 =>
    obtain ⟨u, -, rfl⟩ := mapError_eq_error_iff.mp h
    rfl
  | latin1 => cases h
  | utf8 =>
    obtain ⟨count, -, rfl⟩ := mapError_eq_error_iff.mp h
    rfl

/-- Every text is encoded, except one with a character above U+00FF in Latin-1. -/
theorem encode_isOk_iff (e : Encoding) {cs : List Char} :
    (∃ values, e.encode cs = .ok values) ↔ ¬(e = .latin1 ∧ ∃ c ∈ cs, latin1Last < c.toNat) := by
  cases e with
  | utf16 => simp [encode]
  | latin1 =>
    simp only [true_and, not_exists, not_and, Nat.not_lt]
    constructor
    · rintro ⟨values, h⟩
      exact (encode_latin1_eq_ok_iff.mp h).1
    · intro h
      exact ⟨_, encode_latin1_eq_ok_iff.mpr ⟨h, rfl⟩⟩
  | utf8 => simp [encode]

/-- Encoding fails only because the encoding has no such character. -/
theorem kind_of_encode_error {e : Encoding} {cs : List Char} {fault : Fault} (h : e.encode cs = .error fault) :
    fault.kind = .invalidEncoding := by
  cases e with
  | utf16 => cases h
  | latin1 =>
    rw [encode] at h
    split at h
    · cases h
      rfl
    · cases h
  | utf8 => cases h

/-- A text is encoded in as many elements as it needs. -/
theorem length_of_encode {e : Encoding} {text : String} {values : List e.elementType.Value}
    (h : e.encode text.toList = .ok values) : values.length = e.lengthOf text := by
  cases e with
  | utf16 =>
    cases h
    exact Utf16.length_encode text.toList
  | latin1 =>
    obtain ⟨-, rfl⟩ := encode_latin1_eq_ok_iff.mp h
    rw [List.length_map]
    exact String.length_toList
  | utf8 =>
    cases h
    rw [List.length_map]
    exact Utf8.length_bytesOf text

end ObjectModel.Encoding
