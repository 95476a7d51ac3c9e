import ObjectModel.Proofs.Encoding.Codec

/-!
# Bytes in the other encoding

Latin-1 and UTF-8 write a text as elements of one type, so nothing keeps a reader from taking the one for the other. They
agree on a text exactly when all of it is ASCII: every other text has more bytes in UTF-8 than it has characters. From
this follows what becomes of bytes that are read in the encoding that they were not written in.
-/

namespace ObjectModel

/-- Every character is one of ASCII. -/
def Text.IsAscii (cs : List Char) : Prop :=
  ∀ c ∈ cs, c.toNat < 0x80

/-- One character of ASCII makes a text of ASCII, however often it is repeated. -/
theorem Text.isAscii_replicate {c : Char} (h : c.toNat < 0x80) (n : Nat) : IsAscii (List.replicate n c) :=
  fun _ hc => List.eq_of_mem_replicate hc ▸ h

namespace Utf8

variable {c : Char} {cs : List Char}

/-- A character of ASCII is one byte. -/
theorem encodeChar_of_ascii (h : c.toNat < 0x80) : encodeChar c = [UInt8.ofNat c.toNat] := by
  rw [encodeChar]
  exact if_pos h

/-- Any other character is spelled by more than one byte. -/
theorem Spells.one_lt_length {bytes : List UInt8} {n : Nat} (h : Spells bytes n) (hn : 0x80 ≤ n) : 1 < bytes.length := by
  cases h with
  | one lead => omega
  | two => exact Nat.le_add_left 2 0
  | three => exact Nat.le_add_left 2 1
  | four => exact Nat.le_add_left 2 2

/-- A text of ASCII has one byte for each character. -/
theorem encode_of_isAscii (h : Text.IsAscii cs) : encode cs = cs.map fun c => UInt8.ofNat c.toNat := by
  rw [encode, List.map_eq_flatMap]
  exact List.flatMap_congr fun c hc => encodeChar_of_ascii (h c hc)

/-- No text has fewer bytes than characters, and only those of ASCII have no more. -/
theorem length_encode_cases (cs : List Char) :
    Text.IsAscii cs ∧ (encode cs).length = cs.length ∨ ¬Text.IsAscii cs ∧ cs.length < (encode cs).length := by
  induction cs with
  | nil => exact .inl ⟨List.forall_mem_nil _, rfl⟩
  | cons c rest ih =>
    rw [encode, List.flatMap_cons, List.length_append, List.length_cons, Text.IsAscii, List.forall_mem_cons]
    change _ ∧ (_ + (encode rest).length = _) ∨ _ ∧ _ < _ + (encode rest).length
    by_cases hc : c.toNat < 0x80
    · rw [encodeChar_of_ascii hc, List.length_singleton]
      refine ih.imp ?_ ?_
      · rintro ⟨hrest, hlength⟩
        exact ⟨⟨hc, hrest⟩, by omega⟩
      · rintro ⟨hrest, hlength⟩
        exact ⟨fun h => hrest h.2, by omega⟩
    · have hlong := (spells_encodeChar c).one_lt_length (Nat.le_of_not_lt hc)
      have hle : rest.length ≤ (encode rest).length := by
        rcases ih with ⟨-, hlength⟩ | ⟨-, hlength⟩ <;> omega
      exact .inr ⟨fun h => hc h.1, by omega⟩

/-- A text has as many bytes as characters exactly when it is ASCII. -/
theorem length_encode_eq_iff : (encode cs).length = cs.length ↔ Text.IsAscii cs := by
  rcases length_encode_cases cs with ⟨hascii, hlength⟩ | ⟨hother, hlength⟩
  · exact iff_of_true hlength hascii
  · exact iff_of_false (Nat.ne_of_gt hlength) hother

end Utf8

namespace Encoding

variable {cs others : List Char} {values : List Int8}

/-- A text of ASCII needs one element for each character, in every encoding. -/
theorem lengthOf_of_isAscii {text : String} (h : Text.IsAscii text.toList) (e : Encoding) :
    e.lengthOf text = text.length := by
  cases e with
  | utf16 =>
    have hone : text.toList.map (fun c => if 0xFFFF < c.toNat then 2 else 1) = text.toList.map fun _ => 1 :=
      List.map_congr_left fun c hc => if_neg (Nat.not_lt.mpr (Nat.le_trans (Nat.le_of_lt (h c hc)) (by decide)))
    rw [lengthOf, hone, List.map_const', List.sum_replicate_nat, Nat.mul_one, String.length_toList]
  | latin1 => rfl
  | utf8 => rw [lengthOf, ← Utf8.length_bytesOf, Utf8.bytesOf, Utf8.length_encode_eq_iff.mpr h, String.length_toList]

/-- UTF-8 and Latin-1 write the same elements exactly for a text of ASCII. -/
theorem encode_utf8_eq_encode_latin1_iff :
    Encoding.utf8.encode cs = Encoding.latin1.encode cs ↔ Text.IsAscii cs := by
  constructor
  · intro hsame
    obtain ⟨-, hlatin1⟩ := encode_latin1_eq_ok_iff.mp hsame.symm
    rw [← Utf8.length_encode_eq_iff, ← List.length_map UInt8.toInt8, ← hlatin1, List.length_map]
  · intro hascii
    have hnarrow : ∀ c ∈ cs, c.toNat ≤ latin1Last := fun c hc =>
      Nat.le_trans (Nat.le_of_lt (hascii c hc)) (by decide)
    refine (encode_latin1_eq_ok_iff.mpr ⟨hnarrow, ?_⟩).symm
    rw [Utf8.encode_of_isAscii hascii, List.map_map]
    rfl

/-- A text in Latin-1 is read back in UTF-8 exactly when it is ASCII. -/
theorem decode_utf8_eq_ok_iff (h : Encoding.latin1.encode cs = .ok values) :
    Encoding.utf8.decode values = .ok cs ↔ Text.IsAscii cs := by
  rw [Encoding.utf8.decode_eq_ok_iff, ← encode_utf8_eq_encode_latin1_iff]
  exact ⟨fun hsame => hsame.trans h.symm, fun hsame => hsame.trans h⟩

/-- Bytes are always read in Latin-1, each as one character. -/
theorem exists_decode_latin1 (values : List Int8) :
    ∃ others, Encoding.latin1.decode values = .ok others ∧ others.length = values.length :=
  ⟨_, rfl, List.length_map _⟩

/-- A text in UTF-8 is read back in Latin-1 exactly when it is ASCII. -/
theorem decode_latin1_eq_ok_iff (h : Encoding.utf8.encode cs = .ok values) :
    Encoding.latin1.decode values = .ok cs ↔ Text.IsAscii cs := by
  rw [Encoding.latin1.decode_eq_ok_iff, ← encode_utf8_eq_encode_latin1_iff]
  exact ⟨fun hsame => h.trans hsame.symm, fun hsame => hsame.symm.trans h⟩

/-- Whatever else is read in UTF-8 from a text in Latin-1 has fewer characters. -/
theorem length_lt_of_decode_utf8 (h : Encoding.latin1.encode cs = .ok values) (hcs : ¬Text.IsAscii cs)
    (hread : Encoding.utf8.decode values = .ok others) : others.length < cs.length := by
  have hwritten : Encoding.utf8.encode others = .ok values := Encoding.utf8.decode_eq_ok_iff.mp hread
  have hlength : (Utf8.encode others).length = cs.length := by
    rw [← List.length_map UInt8.toInt8, Except.ok.inj hwritten, ← (encode_latin1_eq_ok_iff.mp h).2, List.length_map]
  rcases Utf8.length_encode_cases others with ⟨hascii, -⟩ | ⟨-, hshorter⟩
  -- What is read is not ASCII itself: the bytes would then be those of the one text that Latin-1 has for them.
  · have hsame : Except.ok others = Except.ok cs :=
      ((decode_latin1_eq_ok_iff hwritten).mpr hascii).symm.trans (Encoding.latin1.decode_eq_ok_iff.mpr h)
    exact absurd (Except.ok.inj hsame ▸ hascii) hcs
  · exact Nat.lt_of_lt_of_eq hshorter hlength

end Encoding

end ObjectModel
