import Mathlib.Order.Bounds.Defs
import ObjectModel.Proofs.Encoding.Stored
import ObjectModel.Proofs.Instance.Refused

/-!
# Refusals name the first offender

What is told about elements that do not decode, and about a text that does not encode, said without the readers. In
UTF-16 it is the first surrogate that is not half of a pair, by position; in UTF-8 the length of the longest lead of the
bytes that is well-formed by itself; in Latin-1 the first character of the text that lies above U+00FF.
-/

namespace ObjectModel

namespace Utf16

/-- The unit at a position is a surrogate without its other half: a high one that no low one follows at once, or a low
one that no high one precedes at once. -/
def Unpaired (units : List UInt16) (i : Nat) (u : UInt16) : Prop :=
  units[i]? = some u ∧
    ((isHigh u = true ∧ ∀ v, units[i + 1]? = some v → isLow v = false) ∨
      (isLow u = true ∧ ∀ j v, i = j + 1 → units[j]? = some v → isHigh v = false))

/-- The leftmost of the surrogates without their other halves. -/
def FirstUnpaired (units : List UInt16) (u : UInt16) : Prop :=
  ∃ i, Unpaired units i u ∧ ∀ j < i, ∀ v, ¬Unpaired units j v

variable {u v w : UInt16} {units longer rest : List UInt16}

/-- Behind the first two units, what is in front of them makes no difference. -/
theorem unpaired_cons_add_two {i : Nat} : Unpaired (u :: rest) (i + 2) w ↔ Unpaired rest (i + 1) w := by
  simp only [Unpaired, List.getElem?_cons_succ]
  refine and_congr_right fun _ => or_congr_right (and_congr_right fun _ => ?_)
  constructor
  · intro h j v hj hv
    cases Nat.succ.inj hj
    exact h (i + 1) v rfl hv
  · intro h j v hj hv
    cases Nat.succ.inj hj
    exact h i v rfl hv

/-- A unit that begins no pair makes no difference to those behind it. -/
theorem unpaired_cons_add_one (hu : isHigh u = false) {i : Nat} :
    Unpaired (u :: rest) (i + 1) w ↔ Unpaired rest i w := by
  cases i with
  | succ i => exact unpaired_cons_add_two
  | zero =>
    simp only [Unpaired, List.getElem?_cons_succ, Nat.zero_add]
    refine and_congr_right fun _ => or_congr_right (and_congr_right fun _ => iff_of_true ?_ ?_)
    · rintro j v hj hv
      cases Nat.succ.inj hj
      cases Option.some.inj hv
      exact hu
    · rintro j v hj -
      cases hj

/-- Units in front that neither lack their other halves nor are that of one behind them leave the first one that does. -/
theorem firstUnpaired_iff_of_shift {k : Nat} (hshift : ∀ i w, Unpaired longer (i + k) w ↔ Unpaired units i w)
    (hfront : ∀ i < k, ∀ w, ¬Unpaired longer i w) : FirstUnpaired longer u ↔ FirstUnpaired units u := by
  constructor
  · rintro ⟨i, hi, hbefore⟩
    obtain ⟨i, rfl⟩ : ∃ j, i = j + k := by
      refine ⟨i - k, (Nat.sub_add_cancel (Nat.le_of_not_lt fun hlt => hfront i hlt u hi)).symm⟩
    refine ⟨i, (hshift i u).mp hi, fun j hj v hv => ?_⟩
    exact hbefore (j + k) (Nat.add_lt_add_right hj k) v ((hshift j v).mpr hv)
  · rintro ⟨i, hi, hbefore⟩
    refine ⟨i + k, (hshift i u).mpr hi, fun j hj v hv => ?_⟩
    have hbehind : k ≤ j := Nat.le_of_not_lt fun hlt => hfront j hlt v hv
    obtain ⟨j, rfl⟩ := Nat.exists_eq_add_of_le' hbehind
    exact hbefore j (Nat.lt_of_add_lt_add_right hj) v ((hshift j v).mp hv)

/-- When the very first unit lacks its other half, it is the leftmost to do so. -/
theorem firstUnpaired_iff_of_front (h : Unpaired units 0 u) : FirstUnpaired units w ↔ w = u := by
  constructor
  · rintro ⟨i, hi, hbefore⟩
    cases i with
    | zero => exact Option.some.inj (hi.1.symm.trans h.1)
    | succ i => exact absurd h (hbefore 0 (Nat.succ_pos i) u)
  · rintro rfl
    exact ⟨0, h, fun j hj => absurd hj (Nat.not_lt_zero j)⟩

/-- Reading refuses units by the leftmost surrogate without its other half. -/
theorem decode_eq_error_iff : decode units = .error u ↔ FirstUnpaired units u := by
  induction units using reading with
  | nil =>
    rw [decode_nil]
    exact iff_of_false (by rintro ⟨⟩) (by rintro ⟨i, ⟨⟨⟩, -⟩, -⟩)
  | unit v rest hhigh hlow ih =>
    rw [decode_unit hhigh hlow, map_eq_error_iff, ih]
    refine (firstUnpaired_iff_of_shift (k := 1) (fun i w => unpaired_cons_add_one hhigh) ?_).symm
    rintro i hi w ⟨hw, hlacks⟩
    cases Nat.lt_one_iff.mp hi
    cases Option.some.inj hw
    simp [hhigh, hlow] at hlacks
  | pair v x rest hhigh hlow ih =>
    rw [decode_pair hhigh hlow, map_eq_error_iff, ih]
    refine (firstUnpaired_iff_of_shift (k := 2) (fun i w => ?_) ?_).symm
    · exact unpaired_cons_add_two.trans (unpaired_cons_add_one (isHigh_of_isLow hlow))
    · rintro i hi w ⟨hw, hlacks⟩
      match i with
      | 0 =>
        cases Option.some.inj hw
        rcases hlacks with ⟨-, hnone⟩ | ⟨hvlow, -⟩
        · exact Bool.false_ne_true ((hnone x rfl).symm.trans hlow)
        · exact Bool.false_ne_true ((isHigh_of_isLow hvlow).symm.trans hhigh)
      | 1 =>
        cases Option.some.inj hw
        rcases hlacks with ⟨hxhigh, -⟩ | ⟨-, hnone⟩
        · exact Bool.false_ne_true ((isHigh_of_isLow hlow).symm.trans hxhigh)
        · exact Bool.false_ne_true ((hnone 0 v rfl rfl).symm.trans hhigh)
  | loneHigh v rest hhigh hrest =>
    have hfront : Unpaired (v :: rest) 0 v := ⟨rfl, .inl ⟨hhigh, fun x hx => hrest x (by simpa using hx)⟩⟩
    rw [decode_loneHigh hhigh hrest, firstUnpaired_iff_of_front hfront, Except.error.injEq]
    exact eq_comm
  | loneLow v rest hlow =>
    have hfront : Unpaired (v :: rest) 0 v := ⟨rfl, .inr ⟨hlow, fun j x hj => absurd hj (Nat.succ_ne_zero j).symm⟩⟩
    rw [decode_loneLow hlow, firstUnpaired_iff_of_front hfront, Except.error.injEq]
    exact eq_comm

/-- Of two high surrogates ahead of a low one it is the first that lacks its other half. -/
example : decode [0x61, 0xD83D, 0xD83D, 0xDE00] = .error 0xD83D ∧ decode [0x61, 0xD83D, 0xDE00, 0xDE01] = .error 0xDE01 := by
  decide

end Utf16

namespace Utf8

/-- The number of bytes in the longest lead of some bytes that is well-formed by itself. -/
def IsLongestLead (bytes : List UInt8) (count : Nat) : Prop :=
  IsGreatest {n | n ≤ bytes.length ∧ WellFormed (bytes.take n)} count

/-- The characters ahead of the first broken piece are written as the bytes ahead of it. -/
theorem encode_leadingChars_prefix (bytes : List UInt8) : encode (leadingChars (pieces bytes)) <+: bytes := by
  induction hn : bytes.length using Nat.strongRecOn generalizing bytes with
  | _ n ih =>
    cases bytes with
    | nil =>
      rw [pieces_nil]
      exact List.prefix_refl []
    | cons a rest =>
      rcases hpiece : firstPiece a rest with ⟨piece, count⟩
      rw [pieces_cons, hpiece]
      cases piece with
      | broken bytes => exact List.nil_prefix
      | char c =>
        obtain ⟨tail, others, m, rfl, hspells, rfl, rfl⟩ := spells_of_firstPiece hpiece
        rw [List.drop_left]
        change encodeChar _ ++ encode _ <+: _
        rw [hspells.encodeChar_eq, List.cons_append, List.cons_prefix_cons, List.prefix_append_right_inj]
        refine ⟨rfl, ih _ ?_ others rfl⟩
        subst hn
        simp only [List.length_cons, List.length_append]
        omega

/-- What follows the bytes of a text adds to the leading characters only behind that text. -/
theorem leadingChars_pieces_append (cs : List Char) (others : List UInt8) :
    leadingChars (pieces (encode cs ++ others)) = cs ++ leadingChars (pieces others) := by
  rw [pieces_encode_append]
  induction cs with
  | nil => rfl
  | cons c rest ih => exact congrArg (c :: ·) ih

/-- The leading characters make up the longest lead that is well-formed. -/
theorem isLongestLead_leadingChars (bytes : List UInt8) :
    IsLongestLead bytes (encode (leadingChars (pieces bytes))).length := by
  constructor
  · have hlead := encode_leadingChars_prefix bytes
    refine ⟨hlead.length_le, wellFormed_iff.mpr ⟨leadingChars (pieces bytes), ?_⟩⟩
    exact List.prefix_iff_eq_take.mp hlead
  · rintro n ⟨hn, hwell⟩
    obtain ⟨cs, hcs⟩ := wellFormed_iff.mp hwell
    have hlonger : leadingChars (pieces bytes) = cs ++ leadingChars (pieces (bytes.drop n)) := by
      conv_lhs => rw [← List.take_append_drop n bytes, ← hcs, leadingChars_pieces_append]
    calc
      n = (encode cs).length := by rw [hcs, List.length_take_of_le hn]
      _ ≤ (encode cs ++ encode (leadingChars (pieces (bytes.drop n)))).length := by
        rw [List.length_append]
        exact Nat.le_add_right _ _
      _ = (encode (leadingChars (pieces bytes))).length := by rw [hlonger, encode, encode, encode, List.flatMap_append]

/-- Reading refuses bytes that are not well-formed, by the length of their longest well-formed lead. -/
theorem decode_eq_error_iff {bytes : List UInt8} {count : Nat} :
    decode bytes = .error count ↔ ¬WellFormed bytes ∧ IsLongestLead bytes count := by
  have hlongest := isLongestLead_leadingChars bytes
  cases hdecode : decode bytes with
  | ok cs =>
    have hwell : WellFormed bytes := wellFormed_iff.mpr ⟨cs, decode_eq_ok_iff.mp hdecode⟩
    exact iff_of_false (by rintro ⟨⟩) (fun h => h.1 hwell)
  | error found =>
    have hill : ¬WellFormed bytes := fun hwell => by
      obtain ⟨cs, hcs⟩ := wellFormed_iff.mp hwell
      cases hdecode.symm.trans (decode_eq_ok_iff.mpr hcs)
    have hfound : (encode (leadingChars (pieces bytes))).length = found := by
      unfold decode at hdecode
      dsimp only at hdecode
      split at hdecode
      · cases hdecode
      · exact Except.error.inj hdecode
    rw [Except.error.injEq, ← hfound]
    exact ⟨fun h => ⟨hill, h ▸ hlongest⟩, fun h => hlongest.unique h.2⟩

/-- A character that breaks off is charged to its first byte. -/
example : decode [0x61, 0xC3, 0xA9, 0xF0, 0x9F, 0x98, 0x41] = .error 3 := by
  cbv

end Utf8

/-- The first character of a text that lies above U+00FF. -/
def Encoding.FirstWide (cs : List Char) (c : Char) : Prop :=
  ∃ ahead behind, cs = ahead ++ c :: behind ∧ (∀ other ∈ ahead, other.toNat ≤ 0xFF) ∧ 0xFF < c.toNat

/-- Decoding the characters of a string is refused because they violate the encoding. -/
def StringHeader.Refuses (heap : Heap) (header : StringHeader) (e : Encoding) (fault : Fault) : Prop :=
  ∃ outcome, header.decode? heap e = some outcome ∧ outcome.value = .error fault ∧ fault.kind = .invalidEncoding

/-- What is refused because it violates an encoding, and what is told about it: for the elements of any character array,
and for any text of which a string is asked for. -/
structure Heap.RefusalsNameFirst (heap : Heap) : Prop where
  utf16 : ∀ header units fault, StringHeader.Stores heap header .utf16 units →
    (header.Refuses heap .utf16 fault ↔ ∃ u, Utf16.FirstUnpaired units u ∧ fault = .unpairedSurrogate u ∧
      fault.attachments = ["unpaired surrogate " ++ Fault.unitText u])
  utf8 : ∀ header values fault, StringHeader.Stores heap header .utf8 values →
    let bytes := values.map Int8.toUInt8
    (header.Refuses heap .utf8 fault ↔ ∃ count, ¬Utf8.WellFormed bytes ∧ Utf8.IsLongestLead bytes count ∧
      fault = .invalidUtf8 count ∧
      fault.attachments = ["invalid UTF-8 after " ++ Text.describeNat count ++ " bytes"])
  /-- Every array of bytes is a text in Latin-1. -/
  latin1 : ∀ header values fault, StringHeader.Stores heap header .latin1 values → ¬header.Refuses heap .latin1 fault
  text : ∀ c charsClass text e fault,
    (Instance.newString heap c charsClass text e = .error fault ∧ fault.kind = .invalidEncoding) ↔
      c.info.kind = .string ∧ e = .latin1 ∧ ∃ ch, Encoding.FirstWide text.toList ch ∧ fault = .outsideLatin1 ch ∧
        fault.attachments = [Text.quotedChar ch ++ " is outside Latin-1"]

namespace Encoding

/-- Latin-1 refuses a text by its first character above U+00FF. -/
theorem encode_latin1_eq_error_iff {cs : List Char} {fault : Fault} :
    Encoding.latin1.encode cs = .error fault ↔ ∃ c, FirstWide cs c ∧ fault = .outsideLatin1 c := by
  have hnarrow (c : Char) : (!decide (latin1Last < c.toNat)) = true ↔ c.toNat ≤ 0xFF := by
    rw [Bool.not_eq_true', decide_eq_false_iff_not, Nat.not_lt, latin1Last]
  have hfind (c : Char) : cs.find? (latin1Last < ·.toNat) = some c ↔ FirstWide cs c := by
    rw [List.find?_eq_some_iff_append, FirstWide]
    constructor
    · rintro ⟨hwide, ahead, behind, hcs, hahead⟩
      exact ⟨ahead, behind, hcs, fun other hother => (hnarrow other).mp (hahead other hother),
        of_decide_eq_true hwide⟩
    · rintro ⟨ahead, behind, hcs, hahead, hwide⟩
      exact ⟨decide_eq_true hwide, ahead, behind, hcs,
        fun other hother => (hnarrow other).mpr (hahead other hother)⟩
  simp only [encode]
  split
  · next c hc =>
    rw [Except.error.injEq]
    constructor
    · rintro rfl
      exact ⟨c, (hfind c).mp hc, rfl⟩
    · rintro ⟨other, hother, rfl⟩
      cases hc.symm.trans ((hfind other).mpr hother)
      rfl
  · next hnone =>
    refine iff_of_false (by rintro ⟨⟩) ?_
    rintro ⟨c, hc, -⟩
    cases hnone.symm.trans ((hfind c).mpr hc)

/-- Only Latin-1 refuses a text. -/
theorem eq_latin1_of_encode_error {e : Encoding} {cs : List Char} {fault : Fault} (h : e.encode cs = .error fault) :
    e = .latin1 := by
  cases e with
  | latin1 => rfl
  | utf16 => cases h
  | utf8 => cases h

end Encoding

/-- Stored elements are refused exactly when they do not decode. -/
theorem StringHeader.refuses_iff_of_stores {heap : Heap} {header : StringHeader} {e : Encoding}
    {values : List e.elementType.Value} (h : header.Stores heap e values) {fault : Fault} :
    header.Refuses heap e fault ↔ e.decode values = .error fault := by
  rw [Refuses, decode?_of_stores h]
  constructor
  · rintro ⟨_, heq, hfault, -⟩
    cases heq
    exact map_eq_error_iff.mp hfault
  · intro hfault
    exact ⟨_, rfl, map_eq_error_iff.mpr hfault, Encoding.kind_of_decode_error hfault⟩

/-- Refusals name the first offender, whatever the array, the classes and the text are. -/
theorem refusals_nameFirst (heap : Heap) : heap.RefusalsNameFirst where
  utf16 header units fault h := by
    rw [StringHeader.refuses_iff_of_stores h, Encoding.decode, mapError_eq_error_iff]
    simp only [Utf16.decode_eq_error_iff]
    constructor
    · rintro ⟨u, hu, rfl⟩
      exact ⟨u, hu, rfl, rfl⟩
    · rintro ⟨u, hu, rfl, -⟩
      exact ⟨u, hu, rfl⟩
  utf8 header values fault h := by
    rw [StringHeader.refuses_iff_of_stores h, Encoding.decode, mapError_eq_error_iff]
    simp only [Utf8.decode_eq_error_iff]
    constructor
    · rintro ⟨count, ⟨hill, hcount⟩, rfl⟩
      exact ⟨count, hill, hcount, rfl, rfl⟩
    · rintro ⟨count, hill, hcount, rfl, -⟩
      exact ⟨count, ⟨hill, hcount⟩, rfl⟩
  latin1 header values fault h := by
    rw [StringHeader.refuses_iff_of_stores h]
    rintro ⟨⟩
  text c charsClass text e fault := by
    rw [Instance.newString_eq_invalidEncoding_iff]
    refine and_congr_right fun _ => ⟨fun hencode => ?_, ?_⟩
    · obtain rfl := Encoding.eq_latin1_of_encode_error hencode
      obtain ⟨ch, hch, rfl⟩ := Encoding.encode_latin1_eq_error_iff.mp hencode
      exact ⟨rfl, ch, hch, rfl, rfl⟩
    · rintro ⟨rfl, ch, hch, rfl, -⟩
      exact Encoding.encode_latin1_eq_error_iff.mpr ⟨ch, hch, rfl⟩

end ObjectModel
