import Mathlib.Logic.Function.Basic
import ObjectModel.Proofs.Text.CodePoint
import ObjectModel.Text.Utf8

/-!
# Well-formed UTF-8

Which sequences of bytes are UTF-8, said without the reader: a character is a lead byte and the continuation bytes
that it announces, and the number they carry needs that many bytes, is no surrogate and is not above U+10FFFF.
Reading accepts exactly these sequences, and what it reads is written back as the same bytes.
-/

namespace ObjectModel.Utf8

/-- A byte that only continues a character. -/
def IsContinuation (b : UInt8) : Prop :=
  0x80 ≤ b.toNat ∧ b.toNat < 0xC0

/-- The bytes spell the character with the given number: neither truncated nor stray, not overlong, no surrogate and
nothing above U+10FFFF. -/
inductive Spells : List UInt8 → Nat → Prop where
  | one {a : UInt8} (lead : a.toNat < 0x80) : Spells [a] a.toNat
  | two {a b : UInt8} {n : Nat} (low : 0xC0 ≤ a.toNat) (high : a.toNat < 0xE0) (second : IsContinuation b)
      (number : n = (a.toNat - 0xC0) * 64 + (b.toNat - 0x80)) (shortest : 0x80 ≤ n) : Spells [a, b] n
  | three {a b c : UInt8} {n : Nat} (low : 0xE0 ≤ a.toNat) (high : a.toNat < 0xF0) (second : IsContinuation b)
      (third : IsContinuation c) (number : n = ((a.toNat - 0xE0) * 64 + (b.toNat - 0x80)) * 64 + (c.toNat - 0x80))
      (shortest : 0x800 ≤ n) (scalar : n < 0xD800 ∨ 0xE000 ≤ n) : Spells [a, b, c] n
  | four {a b c d : UInt8} {n : Nat} (low : 0xF0 ≤ a.toNat) (high : a.toNat < 0xF8) (second : IsContinuation b)
      (third : IsContinuation c) (fourth : IsContinuation d)
      (number : n =
        (((a.toNat - 0xF0) * 64 + (b.toNat - 0x80)) * 64 + (c.toNat - 0x80)) * 64 + (d.toNat - 0x80))
      (shortest : 0x10000 ≤ n) (scalar : n ≤ 0x10FFFF) : Spells [a, b, c, d] n

/-- The bytes of characters, one after the other. -/
inductive WellFormed : List UInt8 → Prop where
  | nil : WellFormed []
  | append {character rest : List UInt8} {n : Nat} (first : Spells character n) (others : WellFormed rest) :
      WellFormed (character ++ rest)

/-- The byte of the number of a byte is that byte. -/
theorem ofNat_eq_of_eq_toNat {n : Nat} {b : UInt8} (h : n = b.toNat) : UInt8.ofNat n = b := by
  rw [h, UInt8.ofNat_toNat]

/-- The number that bytes spell is a code point. -/
theorem Spells.valid {bytes : List UInt8} {n : Nat} (h : Spells bytes n) :
    n < 0xD800 ∨ 0xE000 ≤ n ∧ n ≤ 0x10FFFF := by
  cases h with
  | one lead => omega
  | two low high second number shortest =>
    have := second.2
    omega
  | three low high second third number shortest scalar =>
    have := second.2
    have := third.2
    omega
  | four low high second third fourth number shortest scalar => omega

/-- A character is written as bytes that spell it. -/
theorem spells_encodeChar (c : Char) : Spells (encodeChar c) c.toNat := by
  have hvalid := Text.toNat_valid c
  rw [encodeChar]
  generalize c.toNat = n at hvalid
  split
  · have hbyte : (UInt8.ofNat n).toNat = n := by
      rw [UInt8.toNat_ofNat']
      omega
    simpa only [hbyte] using Spells.one (a := UInt8.ofNat n) (by omega)
  · split
    · refine .two ?_ ?_ ⟨?_, ?_⟩ ?_ (by omega) <;> simp only [UInt8.toNat_ofNat'] <;> omega
    · split
      · refine .three ?_ ?_ ⟨?_, ?_⟩ ⟨?_, ?_⟩ ?_ (by omega) (by omega) <;> simp only [UInt8.toNat_ofNat'] <;> omega
      · refine .four ?_ ?_ ⟨?_, ?_⟩ ⟨?_, ?_⟩ ⟨?_, ?_⟩ ?_ (by omega) (by omega) <;> simp only [UInt8.toNat_ofNat'] <;>
          omega

/-- The bytes that spell a character are those it is written as. -/
theorem Spells.encodeChar_eq {bytes : List UInt8} {n : Nat} (h : Spells bytes n) :
    encodeChar (Char.ofNat n) = bytes := by
  simp only [encodeChar, Text.toNat_ofNat h.valid]
  cases h with
  | one lead => rw [if_pos lead, UInt8.ofNat_toNat]
  | two low high second number shortest =>
    have := second.1
    have := second.2
    rw [if_neg (by omega), if_pos (by omega)]
    simp only [List.cons.injEq, and_true]
    exact ⟨ofNat_eq_of_eq_toNat (by omega), ofNat_eq_of_eq_toNat (by omega)⟩
  | three low high second third number shortest scalar =>
    have := second.1
    have := second.2
    have := third.1
    have := third.2
    rw [if_neg (by omega), if_neg (by omega), if_pos (by omega)]
    simp only [List.cons.injEq, and_true]
    exact ⟨ofNat_eq_of_eq_toNat (by omega), ofNat_eq_of_eq_toNat (by omega), ofNat_eq_of_eq_toNat (by omega)⟩
  | four low high second third fourth number shortest scalar =>
    have := second.1
    have := second.2
    have := third.1
    have := third.2
    have := fourth.1
    have := fourth.2
    rw [if_neg (by omega), if_neg (by omega), if_neg (by omega)]
    simp only [List.cons.injEq, and_true]
    exact ⟨ofNat_eq_of_eq_toNat (by omega), ofNat_eq_of_eq_toNat (by omega), ofNat_eq_of_eq_toNat (by omega),
      ofNat_eq_of_eq_toNat (by omega)⟩

/-- The bits of continuation bytes behind those already read. -/
def carry (bits : Nat) : List UInt8 → Nat
  | [] => bits
  | b :: tail => carry (bits * 64 + continuationBits b) tail

/-- Each range holds the byte at its position. -/
inductive InRanges : List ByteRange → List UInt8 → Prop where
  | nil : InRanges [] []
  | cons {range : ByteRange} {ranges : List ByteRange} {b : UInt8} {tail : List UInt8}
      (first : range.contains b = true) (others : InRanges ranges tail) : InRanges (range :: ranges) (b :: tail)

/-- A range holds the bytes between its ends. -/
theorem contains_iff {range : ByteRange} {b : UInt8} :
    range.contains b = true ↔ range.low ≤ b.toNat ∧ b.toNat ≤ range.high := by
  simp [ByteRange.contains]

/-- The range of continuation bytes holds just these. -/
theorem contains_continuation_iff {b : UInt8} : continuation.contains b = true ↔ IsContinuation b := by
  rw [contains_iff]
  exact and_congr_right fun _ => Nat.lt_succ_iff.symm

/-- When the next bytes lie in the ranges, none is missing and their bits are carried. -/
theorem follow_of_inRanges {ranges : List ByteRange} {tail : List UInt8} (h : InRanges ranges tail) (bits : Nat)
    (others : List UInt8) : follow bits ranges (tail ++ others) = (some (carry bits tail), tail.length) := by
  induction h generalizing bits with
  | nil => rfl
  | cons first _ ih =>
    rw [List.cons_append, follow, if_pos first, ih]
    rfl

/-- When no byte is missing, the next bytes lie in the ranges. -/
theorem inRanges_of_follow {bits value count : Nat} {ranges : List ByteRange} {rest : List UInt8}
    (h : follow bits ranges rest = (some value, count)) :
    ∃ tail others, rest = tail ++ others ∧ InRanges ranges tail ∧ value = carry bits tail ∧ count = tail.length := by
  induction ranges generalizing bits rest count with
  | nil =>
    simp only [follow, Prod.mk.injEq, Option.some.injEq] at h
    exact ⟨[], rest, rfl, .nil, h.1.symm, h.2.symm⟩
  | cons range ranges ih =>
    cases rest with
    | nil => simp [follow] at h
    | cons b rest =>
      rw [follow] at h
      split at h
      · next hb =>
        obtain ⟨hvalue, hcount⟩ := Prod.mk.inj h
        obtain ⟨tail, others, rfl, hranges, hcarry, hlength⟩ := ih (Prod.ext hvalue rfl)
        exact ⟨b :: tail, others, rfl, .cons hb hranges, hcarry, by rw [List.length_cons, ← hlength, hcount]⟩
      · simp at h

/-- The range behind a lead byte of three holds the continuations that are neither overlong nor a surrogate. -/
theorem contains_secondOfThree_iff {n : Nat} {b : UInt8} :
    (ByteRange.mk (if n = 0xE0 then 0xA0 else 0x80) (if n = 0xED then 0x9F else 0xBF)).contains b = true ↔
      IsContinuation b ∧ (n = 0xE0 → 0xA0 ≤ b.toNat) ∧ (n = 0xED → b.toNat < 0xA0) := by
  rw [contains_iff, IsContinuation]
  dsimp only
  split <;> split <;> omega

/-- The range behind a lead byte of four holds the continuations that are neither overlong nor too large. -/
theorem contains_secondOfFour_iff {n : Nat} {b : UInt8} :
    (ByteRange.mk (if n = 0xF0 then 0x90 else 0x80) (if n = 0xF4 then 0x8F else 0xBF)).contains b = true ↔
      IsContinuation b ∧ (n = 0xF0 → 0x90 ≤ b.toNat) ∧ (n = 0xF4 → b.toNat < 0x90) := by
  rw [contains_iff, IsContinuation]
  dsimp only
  split <;> split <;> omega

/-- A continuation byte contributes what it has above the first one. -/
theorem IsContinuation.bits_eq {b : UInt8} (h : IsContinuation b) : continuationBits b = b.toNat - 0x80 := by
  have := h.1
  have := h.2
  rw [continuationBits]
  omega

/-- A lead byte and bytes in the ranges that it fixes spell the character of the bits they carry. -/
theorem spells_of_lead {a : UInt8} {bits : Nat} {ranges : List ByteRange} {tail : List UInt8}
    (hlead : lead? a = some (bits, ranges)) (hranges : InRanges ranges tail) :
    Spells (a :: tail) (carry bits tail) := by
  unfold lead? at hlead
  dsimp only at hlead
  split at hlead
  · obtain ⟨rfl, rfl⟩ := Prod.mk.inj (Option.some.inj hlead)
    cases hranges
    exact .one (by assumption)
  · split at hlead
    · cases hlead
    · split at hlead
      · obtain ⟨rfl, rfl⟩ := Prod.mk.inj (Option.some.inj hlead)
        cases hranges with | cons hb htail
        cases htail
        have second := contains_continuation_iff.mp hb
        have := second.1
        simp only [carry, second.bits_eq]
        exact .two (by omega) (by omega) second rfl (by omega)
      · split at hlead
        · obtain ⟨rfl, rfl⟩ := Prod.mk.inj (Option.some.inj hlead)
          cases hranges with | cons hb htail
          cases htail with | cons hc htail
          cases htail
          obtain ⟨second, hoverlong, hsurrogate⟩ := contains_secondOfThree_iff.mp hb
          have third := contains_continuation_iff.mp hc
          have := second.1
          have := second.2
          have := third.2
          simp only [carry, second.bits_eq, third.bits_eq]
          exact .three (by omega) (by omega) second third rfl (by omega) (by omega)
        · split at hlead
          · obtain ⟨rfl, rfl⟩ := Prod.mk.inj (Option.some.inj hlead)
            cases hranges with | cons hb htail
            cases htail with | cons hc htail
            cases htail with | cons hd htail
            cases htail
            obtain ⟨second, hoverlong, hlarge⟩ := contains_secondOfFour_iff.mp hb
            have third := contains_continuation_iff.mp hc
            have fourth := contains_continuation_iff.mp hd
            have := second.1
            have := second.2
            have := third.2
            have := fourth.2
            simp only [carry, second.bits_eq, third.bits_eq, fourth.bits_eq]
            exact .four (by omega) (by omega) second third fourth rfl (by omega) (by omega)
          · cases hlead

/-- Bytes that spell a character are a lead byte and bytes in the ranges that it fixes. -/
theorem Spells.lead {a : UInt8} {tail : List UInt8} {n : Nat} (h : Spells (a :: tail) n) :
    ∃ bits ranges, lead? a = some (bits, ranges) ∧ InRanges ranges tail ∧ n = carry bits tail := by
  unfold lead?
  cases h with
  | one lead => exact ⟨a.toNat, [], by rw [if_pos lead], .nil, rfl⟩
  | two low high second number shortest =>
    have := second.2
    refine ⟨a.toNat - 0xC0, [continuation], ?_, .cons (contains_continuation_iff.mpr second) .nil, ?_⟩
    · rw [if_neg (by omega), if_neg (by omega), if_pos high]
    · simp only [carry, second.bits_eq, number]
  | three low high second third number shortest scalar =>
    have := second.1
    have := second.2
    have := third.1
    have := third.2
    refine ⟨a.toNat - 0xE0, _, by rw [if_neg (by omega), if_neg (by omega), if_neg (by omega), if_pos high],
      .cons (contains_secondOfThree_iff.mpr ⟨second, by omega, by omega⟩)
        (.cons (contains_continuation_iff.mpr third) .nil), ?_⟩
    simp only [carry, second.bits_eq, third.bits_eq, number]
  | four low high second third fourth number shortest scalar =>
    have := second.1
    have := second.2
    have := third.1
    have := third.2
    have := fourth.1
    have := fourth.2
    refine ⟨a.toNat - 0xF0, _, by
      rw [if_neg (by omega), if_neg (by omega), if_neg (by omega), if_neg (by omega), if_pos (by omega)],
      .cons (contains_secondOfFour_iff.mpr ⟨second, by omega, by omega⟩)
        (.cons (contains_continuation_iff.mpr third) (.cons (contains_continuation_iff.mpr fourth) .nil)), ?_⟩
    simp only [carry, second.bits_eq, third.bits_eq, fourth.bits_eq, number]

/-- The first piece of bytes that begin with the spelling of a character is that character. -/
theorem Spells.firstPiece {a : UInt8} {tail : List UInt8} {n : Nat} (h : Spells (a :: tail) n)
    (others : List UInt8) : firstPiece a (tail ++ others) = (.char (Char.ofNat n), tail.length) := by
  obtain ⟨bits, ranges, hlead, hranges, rfl⟩ := h.lead
  rw [Utf8.firstPiece, hlead]
  simp only [follow_of_inRanges hranges]

/-- Where the first piece of bytes is a character, they begin with its spelling. -/
theorem spells_of_firstPiece {a : UInt8} {rest : List UInt8} {c : Char} {count : Nat}
    (h : firstPiece a rest = (.char c, count)) :
    ∃ tail others n, rest = tail ++ others ∧ Spells (a :: tail) n ∧ c = Char.ofNat n ∧ count = tail.length := by
  unfold firstPiece at h
  split at h
  · simp at h
  · next bits ranges hlead =>
    split at h
    · next value k hfollow =>
      obtain ⟨tail, others, rfl, hranges, rfl, rfl⟩ := inRanges_of_follow hfollow
      simp only [Prod.mk.injEq, Piece.char.injEq] at h
      exact ⟨tail, others, _, rfl, spells_of_lead hlead hranges, h.1.symm, h.2.symm⟩
    · simp at h

/-- The pieces of bytes that begin with the spelling of a character begin with that character. -/
theorem Spells.pieces_append {bytes : List UInt8} {n : Nat} (h : Spells bytes n) (others : List UInt8) :
    pieces (bytes ++ others) = .char (Char.ofNat n) :: pieces others := by
  cases bytes with
  | nil => nomatch h
  | cons a tail => rw [List.cons_append, pieces_cons, h.firstPiece, List.drop_left]

/-- The pieces of a text written as bytes are its characters. -/
theorem pieces_encode_append (cs : List Char) (others : List UInt8) :
    pieces (encode cs ++ others) = cs.map .char ++ pieces others := by
  induction cs with
  | nil => rfl
  | cons c rest ih =>
    rw [encode, List.flatMap_cons, List.append_assoc, (spells_encodeChar c).pieces_append, Char.ofNat_toNat]
    exact congrArg (Piece.char c :: ·) ih

/-- The pieces of the bytes of a text are its characters. -/
theorem pieces_encode (cs : List Char) : pieces (encode cs) = cs.map .char := by
  simpa using pieces_encode_append cs []

/-- Bytes whose pieces are characters are these characters written as bytes. -/
theorem encode_eq_of_pieces {cs : List Char} {bytes : List UInt8} (h : pieces bytes = cs.map .char) :
    encode cs = bytes := by
  induction cs generalizing bytes with
  | nil =>
    cases bytes with
    | nil => rfl
    | cons a rest => simp [pieces_cons] at h
  | cons c cs ih =>
    cases bytes with
    | nil => simp at h
    | cons a rest =>
      rcases hpiece : firstPiece a rest with ⟨piece, count⟩
      rw [pieces_cons, hpiece, List.map_cons] at h
      obtain ⟨rfl, hothers⟩ := List.cons.inj h
      obtain ⟨tail, others, n, rfl, hspells, rfl, rfl⟩ := spells_of_firstPiece hpiece
      rw [List.drop_left] at hothers
      rw [encode, List.flatMap_cons, hspells.encodeChar_eq]
      exact congrArg (a :: tail ++ ·) (ih hothers)

/-- The leading characters are followed by all pieces exactly when every piece is a character. -/
theorem length_leadingChars_eq_iff {ps : List Piece} :
    (leadingChars ps).length = ps.length ↔ ps = (leadingChars ps).map .char := by
  constructor
  · intro h
    induction ps with
    | nil => rfl
    | cons p rest ih =>
      cases p with
      | char c => exact congrArg (Piece.char c :: ·) (ih (Nat.succ.inj h))
      | broken bytes => simp [leadingChars, Piece.char?] at h
  · intro h
    exact (List.length_map _).symm.trans (congrArg List.length h.symm)

/-- Characters are their own leading characters. -/
theorem leadingChars_map_char (cs : List Char) : leadingChars (cs.map .char) = cs := by
  induction cs with
  | nil => rfl
  | cons c rest ih => exact congrArg (c :: ·) ih

/-- Bytes are read as a text exactly when that text is written as these bytes. -/
theorem decode_eq_ok_iff {bytes : List UInt8} {cs : List Char} : decode bytes = .ok cs ↔ encode cs = bytes := by
  constructor
  · intro h
    unfold decode at h
    dsimp only at h
    split at h
    · next hlength =>
      cases h
      exact encode_eq_of_pieces (length_leadingChars_eq_iff.mp hlength)
    · cases h
  · rintro rfl
    rw [decode]
    simp only [pieces_encode, leadingChars_map_char, List.length_map, if_true]

/-- Different texts are written as different bytes. -/
theorem encode_injective : Function.Injective encode := by
  intro cs others h
  have hcs := decode_eq_ok_iff.mpr h
  rw [decode_eq_ok_iff.mpr rfl] at hcs
  exact (Except.ok.inj hcs).symm

/-- No two strings have the same bytes. -/
theorem bytesOf_injective : Function.Injective bytesOf := fun _ _ h =>
  String.toList_inj.mp (encode_injective h)

/-- The bytes of a text, and no others, are well-formed. -/
theorem wellFormed_iff {bytes : List UInt8} : WellFormed bytes ↔ ∃ cs, encode cs = bytes := by
  constructor
  · intro h
    induction h with
    | nil => exact ⟨[], rfl⟩
    | append first _ ih =>
      obtain ⟨cs, rfl⟩ := ih
      exact ⟨_ :: cs, congrArg (· ++ encode cs) first.encodeChar_eq⟩
  · rintro ⟨cs, rfl⟩
    induction cs with
    | nil => exact .nil
    | cons c rest ih => exact .append (spells_encodeChar c) ih

/-- A character is written as the bytes that strings have for it. -/
theorem encodeChar_eq_utf8EncodeChar (c : Char) : encodeChar c = String.utf8EncodeChar c := by
  have hvalid := Text.toNat_valid c
  rw [encodeChar, String.utf8EncodeChar]
  simp only [show c.val.toNat = c.toNat from rfl]
  generalize c.toNat = n at hvalid
  by_cases h₁ : n < 0x80
  · rw [if_pos h₁, if_pos (show n ≤ 0x7F by omega)]
  rw [if_neg h₁, if_neg (show ¬n ≤ 0x7F by omega)]
  by_cases h₂ : n < 0x800
  · rw [if_pos h₂, if_pos (show n ≤ 0x7FF by omega)]
    have hlead : n / 64 % 0x20 = n / 64 := Nat.mod_eq_of_lt (by omega)
    rw [hlead, Nat.add_comm 0xC0, Nat.add_comm 0x80]
  rw [if_neg h₂, if_neg (show ¬n ≤ 0x7FF by omega)]
  by_cases h₃ : n < 0x10000
  · rw [if_pos h₃, if_pos (show n ≤ 0xFFFF by omega)]
    have hlead : n / 4096 % 0x10 = n / 4096 := Nat.mod_eq_of_lt (by omega)
    rw [hlead, Nat.add_comm 0xE0, Nat.add_comm 0x80, Nat.add_comm 0x80]
  · rw [if_neg h₃, if_neg (show ¬n ≤ 0xFFFF by omega)]
    have hlead : n / 262144 % 0x08 = n / 262144 := Nat.mod_eq_of_lt (by omega)
    rw [hlead, Nat.add_comm 0xF0, Nat.add_comm 0x80, Nat.add_comm 0x80, Nat.add_comm 0x80]

/-- The bytes of a string are those that it is stored as. -/
theorem toByteArray_bytesOf (s : String) : (bytesOf s).toByteArray = s.toByteArray := by
  have hencode : encode s.toList = s.toList.flatMap String.utf8EncodeChar :=
    congrArg s.toList.flatMap (funext encodeChar_eq_utf8EncodeChar)
  rw [bytesOf, hencode]
  exact String.toByteArray_ofList.symm.trans (congrArg String.toByteArray String.ofList_toList)

/-- A string has as many bytes as its size says. -/
theorem length_bytesOf (s : String) : (bytesOf s).length = s.utf8ByteSize := by
  rw [← String.size_toByteArray, ← toByteArray_bytesOf, List.size_toByteArray]

end ObjectModel.Utf8
