import Mathlib.Algebra.GroupWithZero.Nat
import ObjectModel.Proofs.Text.CodePoint
import ObjectModel.Text.Utf16

/-!
# Well-formed UTF-16

Which sequences of units are UTF-16, said by position: every high surrogate has a low one right behind it, and every
low surrogate a high one right in front. Reading accepts exactly these sequences, and what it reads is written back
as the same units.
-/

namespace ObjectModel.Utf16

/-- Every high surrogate is followed at once by a low one, and every low one preceded at once by a high one. -/
def WellFormed (units : List UInt16) : Prop :=
  ∀ i u, units[i]? = some u →
    (isHigh u = true → ∃ v, units[i + 1]? = some v ∧ isLow v = true) ∧
      (isLow u = true → ∃ j v, i = j + 1 ∧ units[j]? = some v ∧ isHigh v = true)

/-- High surrogates lie between U+D800 and U+DBFF. -/
theorem isHigh_iff {u : UInt16} : isHigh u = true ↔ 0xD800 ≤ u.toNat ∧ u.toNat < 0xDC00 := by
  simp [isHigh]

/-- Low surrogates lie between U+DC00 and U+DFFF. -/
theorem isLow_iff {u : UInt16} : isLow u = true ↔ 0xDC00 ≤ u.toNat ∧ u.toNat < 0xE000 := by
  simp [isLow]

/-- No unit is both halves of a pair. -/
theorem isHigh_of_isLow {u : UInt16} (h : isLow u = true) : isHigh u = false := by
  have := isLow_iff.mp h
  rw [Bool.eq_false_iff]
  intro hhigh
  have := isHigh_iff.mp hhigh
  omega

/-- No units, no characters. -/
theorem decode_nil : decode [] = .ok [] := by
  rw [decode, decodeFrom]
  rfl

/-- A unit that is no surrogate is a character by itself. -/
theorem decode_unit {u : UInt16} (hhigh : isHigh u = false) (hlow : isLow u = false) (rest : List UInt16) :
    decode (u :: rest) = (decode rest).map (Char.ofNat u.toNat :: ·) := by
  rw [decode, decodeFrom.eq_def]
  simp only [hhigh, hlow, Bool.false_eq_true, if_false]
  rw [decodeFrom_eq]
  rfl

/-- A high surrogate and a low one behind it are a character. -/
theorem decode_pair {u v : UInt16} (hhigh : isHigh u = true) (hlow : isLow v = true) (rest : List UInt16) :
    decode (u :: v :: rest) = (decode rest).map (pair u v :: ·) := by
  rw [decode, decodeFrom, if_pos hhigh]
  simp only [hlow, if_true]
  rw [decodeFrom_eq]
  rfl

/-- A high surrogate without a low one behind it is refused. -/
theorem decode_loneHigh {u : UInt16} {rest : List UInt16} (hhigh : isHigh u = true)
    (hrest : ∀ v, rest[0]? = some v → isLow v = false) : decode (u :: rest) = .error u := by
  rw [decode, decodeFrom.eq_def]
  simp only [hhigh, if_true]
  cases rest with
  | nil => rfl
  | cons v rest => simp only [hrest v rfl, Bool.false_eq_true, if_false]

/-- A low surrogate that no high one precedes is refused. -/
theorem decode_loneLow {u : UInt16} (hlow : isLow u = true) (rest : List UInt16) : decode (u :: rest) = .error u := by
  rw [decode, decodeFrom.eq_def]
  simp only [isHigh_of_isLow hlow, hlow, Bool.false_eq_true, if_false, if_true]

/-- Units read from the front: a unit that is no surrogate, a pair, or a surrogate that is not half of one. -/
theorem reading {motive : List UInt16 → Prop} (nil : motive [])
    (unit : ∀ u rest, isHigh u = false → isLow u = false → motive rest → motive (u :: rest))
    (pair : ∀ u v rest, isHigh u = true → isLow v = true → motive rest → motive (u :: v :: rest))
    (loneHigh : ∀ u rest, isHigh u = true → (∀ v, rest[0]? = some v → isLow v = false) → motive (u :: rest))
    (loneLow : ∀ u rest, isLow u = true → motive (u :: rest)) (units : List UInt16) : motive units := by
  induction hn : units.length using Nat.strongRecOn generalizing units with
  | _ n ih =>
    subst hn
    cases units with
    | nil => exact nil
    | cons u rest =>
      cases hhigh : isHigh u with
      | false =>
        cases hlow : isLow u with
        | false => exact unit u rest hhigh hlow (ih _ (Nat.lt_succ_self _) rest rfl)
        | true => exact loneLow u rest hlow
      | true =>
        cases rest with
        | nil => exact loneHigh u [] hhigh (by simp)
        | cons v rest =>
          cases hlow : isLow v with
          | false => exact loneHigh u (v :: rest) hhigh (by simpa using hlow)
          | true => exact pair u v rest hhigh hlow (ih _ (by simp only [List.length_cons]; omega) rest rfl)

/-- The unit of a character that is no surrogate is written for that character. -/
theorem encodeChar_unit {u : UInt16} (hhigh : isHigh u = false) (hlow : isLow u = false) :
    encodeChar (Char.ofNat u.toNat) = [u] := by
  have hbound := u.toNat_lt
  have hvalid : u.toNat < 0xD800 ∨ 0xE000 ≤ u.toNat ∧ u.toNat ≤ 0x10FFFF := by
    simp only [isHigh, isLow, Bool.and_eq_false_iff, decide_eq_false_iff_not] at hhigh hlow
    omega
  simp only [encodeChar, Text.toNat_ofNat hvalid]
  rw [if_pos (by omega), UInt16.ofNat_toNat]

/-- The code point of a pair lies above U+FFFF. -/
theorem toNat_pair {u v : UInt16} (hhigh : isHigh u = true) (hlow : isLow v = true) :
    (pair u v).toNat = 0x10000 + (u.toNat - 0xD800) * 0x400 + (v.toNat - 0xDC00) := by
  obtain ⟨_, hu⟩ := isHigh_iff.mp hhigh
  obtain ⟨_, hv⟩ := isLow_iff.mp hlow
  rw [pair, Text.toNat_ofNat (by omega)]

/-- The units of a pair are written for its character. -/
theorem encodeChar_pair {u v : UInt16} (hhigh : isHigh u = true) (hlow : isLow v = true) :
    encodeChar (pair u v) = [u, v] := by
  obtain ⟨hu, hu'⟩ := isHigh_iff.mp hhigh
  obtain ⟨hv, hv'⟩ := isLow_iff.mp hlow
  simp only [encodeChar, toNat_pair hhigh hlow]
  rw [if_neg (by omega)]
  have hfirst : 0xD800 + (0x10000 + (u.toNat - 0xD800) * 0x400 + (v.toNat - 0xDC00) - 0x10000) / 0x400 = u.toNat := by
    omega
  have hsecond : 0xDC00 + (0x10000 + (u.toNat - 0xD800) * 0x400 + (v.toNat - 0xDC00) - 0x10000) % 0x400 = v.toNat := by
    omega
  rw [hfirst, hsecond, UInt16.ofNat_toNat, UInt16.ofNat_toNat]

/-- The units written for a character are read as that character. -/
theorem decode_encodeChar_append (c : Char) (rest : List UInt16) :
    decode (encodeChar c ++ rest) = (decode rest).map (c :: ·) := by
  have hvalid := Text.toNat_valid c
  unfold encodeChar
  dsimp only
  split
  · next h =>
    have hunit : (UInt16.ofNat c.toNat).toNat = c.toNat := by
      rw [UInt16.toNat_ofNat']
      omega
    rw [List.singleton_append, decode_unit, hunit, Char.ofNat_toNat]
    · simp only [isHigh, hunit, Bool.and_eq_false_iff, decide_eq_false_iff_not]
      omega
    · simp only [isLow, hunit, Bool.and_eq_false_iff, decide_eq_false_iff_not]
      omega
  · next h =>
    generalize hhigh : UInt16.ofNat (0xD800 + (c.toNat - 0x10000) / 0x400) = u
    generalize hlow : UInt16.ofNat (0xDC00 + (c.toNat - 0x10000) % 0x400) = v
    have hu : u.toNat = 0xD800 + (c.toNat - 0x10000) / 0x400 := by
      rw [← hhigh, UInt16.toNat_ofNat']
      omega
    have hv : v.toNat = 0xDC00 + (c.toNat - 0x10000) % 0x400 := by
      rw [← hlow, UInt16.toNat_ofNat']
      omega
    have hisHigh : isHigh u = true := isHigh_iff.mpr (by omega)
    have hisLow : isLow v = true := isLow_iff.mpr (by omega)
    have hpair : pair u v = c := by
      rw [← Char.ofNat_toNat c, ← Char.ofNat_toNat (pair u v), toNat_pair hisHigh hisLow]
      exact congrArg Char.ofNat (by omega)
    rw [List.cons_append, List.singleton_append, decode_pair hisHigh hisLow, hpair]

/-- Units are read as a text exactly when that text is written as these units. -/
theorem decode_eq_ok_iff {units : List UInt16} {cs : List Char} : decode units = .ok cs ↔ encode cs = units := by
  constructor
  · intro h
    induction units using reading generalizing cs with
    | nil =>
      cases decode_nil.symm.trans h
      rfl
    | unit u rest hhigh hlow ih =>
      rw [decode_unit hhigh hlow] at h
      cases hrest : decode rest with
      | error fault => simp [hrest, Except.map] at h
      | ok others =>
        rw [hrest] at h
        cases h
        rw [encode, List.flatMap_cons, encodeChar_unit hhigh hlow]
        exact congrArg ([u] ++ ·) (ih hrest)
    | pair u v rest hhigh hlow ih =>
      rw [decode_pair hhigh hlow] at h
      cases hrest : decode rest with
      | error fault => simp [hrest, Except.map] at h
      | ok others =>
        rw [hrest] at h
        cases h
        rw [encode, List.flatMap_cons, encodeChar_pair hhigh hlow]
        exact congrArg ([u, v] ++ ·) (ih hrest)
    | loneHigh u rest hhigh hrest => cases (decode_loneHigh hhigh hrest).symm.trans h
    | loneLow u rest hlow => cases (decode_loneLow hlow rest).symm.trans h
  · rintro rfl
    induction cs with
    | nil => exact decode_nil
    | cons c rest ih =>
      rw [encode, List.flatMap_cons, decode_encodeChar_append]
      change (decode (encode rest)).map _ = _
      rw [ih]
      rfl

/-- A unit that is no surrogate can be put in front of well-formed units, and only of such. -/
theorem wellFormed_unit {u : UInt16} (hhigh : isHigh u = false) (hlow : isLow u = false) (rest : List UInt16) :
    WellFormed (u :: rest) ↔ WellFormed rest := by
  constructor
  · intro h i w hw
    obtain ⟨hfollowed, hpreceded⟩ := h (i + 1) w (by simpa using hw)
    refine ⟨fun hwhigh => by simpa using hfollowed hwhigh, fun hwlow => ?_⟩
    obtain ⟨j, v, hj, hv, hvhigh⟩ := hpreceded hwlow
    cases Nat.succ.inj hj
    cases i with
    | zero =>
      cases Option.some.inj hv
      simp [hhigh] at hvhigh
    | succ i => exact ⟨i, v, rfl, by simpa using hv, hvhigh⟩
  · intro h i w hw
    cases i with
    | zero =>
      cases Option.some.inj hw
      simp [hhigh, hlow]
    | succ i =>
      obtain ⟨hfollowed, hpreceded⟩ := h i w (by simpa using hw)
      refine ⟨fun hwhigh => by simpa using hfollowed hwhigh, fun hwlow => ?_⟩
      obtain ⟨j, v, rfl, hv, hvhigh⟩ := hpreceded hwlow
      exact ⟨j + 1, v, rfl, by simpa using hv, hvhigh⟩

/-- A pair can be put in front of well-formed units, and only of such. -/
theorem wellFormed_pair {u v : UInt16} (hhigh : isHigh u = true) (hlow : isLow v = true) (rest : List UInt16) :
    WellFormed (u :: v :: rest) ↔ WellFormed rest := by
  constructor
  · intro h i w hw
    obtain ⟨hfollowed, hpreceded⟩ := h (i + 2) w (by simpa using hw)
    refine ⟨fun hwhigh => by simpa using hfollowed hwhigh, fun hwlow => ?_⟩
    obtain ⟨j, x, hj, hx, hxhigh⟩ := hpreceded hwlow
    cases Nat.succ.inj hj
    cases i with
    | zero =>
      cases Option.some.inj hx
      simp [isHigh_of_isLow hlow] at hxhigh
    | succ i => exact ⟨i, x, rfl, by simpa using hx, hxhigh⟩
  · intro h i w hw
    match i with
    | 0 =>
      cases Option.some.inj hw
      refine ⟨fun _ => ⟨v, rfl, hlow⟩, fun hulow => ?_⟩
      simp [isHigh_of_isLow hulow] at hhigh
    | 1 =>
      cases Option.some.inj hw
      refine ⟨fun hvhigh => ?_, fun _ => ⟨0, u, rfl, rfl, hhigh⟩⟩
      simp [isHigh_of_isLow hlow] at hvhigh
    | i + 2 =>
      obtain ⟨hfollowed, hpreceded⟩ := h i w (by simpa using hw)
      refine ⟨fun hwhigh => by simpa using hfollowed hwhigh, fun hwlow => ?_⟩
      obtain ⟨j, x, rfl, hx, hxhigh⟩ := hpreceded hwlow
      exact ⟨j + 2, x, rfl, by simpa using hx, hxhigh⟩

/-- The units that are read as a text, and no others, are well-formed. -/
theorem wellFormed_iff {units : List UInt16} : WellFormed units ↔ ∃ cs, decode units = .ok cs := by
  induction units using reading with
  | nil => simp [WellFormed, decode_nil]
  | unit u rest hhigh hlow ih =>
    rw [wellFormed_unit hhigh hlow, ih, decode_unit hhigh hlow]
    cases decode rest <;> simp [Except.map]
  | pair u v rest hhigh hlow ih =>
    rw [wellFormed_pair hhigh hlow, ih, decode_pair hhigh hlow]
    cases decode rest <;> simp [Except.map]
  | loneHigh u rest hhigh hrest =>
    simp only [decode_loneHigh hhigh hrest, reduceCtorEq, exists_false, iff_false]
    intro h
    obtain ⟨v, hv, hlow⟩ := (h 0 u rfl).1 hhigh
    simp [hrest v (by simpa using hv)] at hlow
  | loneLow u rest hlow =>
    simp only [decode_loneLow hlow, reduceCtorEq, exists_false, iff_false]
    intro h
    obtain ⟨j, v, hj, -⟩ := (h 0 u rfl).2 hlow
    cases hj

/-- A character is written as two units when it lies above U+FFFF and as one otherwise. -/
theorem length_encode (cs : List Char) :
    (encode cs).length = (cs.map fun c => if 0xFFFF < c.toNat then 2 else 1).sum := by
  induction cs with
  | nil => rfl
  | cons c rest ih =>
    have hlength : (encodeChar c).length = if 0xFFFF < c.toNat then 2 else 1 := by
      unfold encodeChar
      dsimp only
      split
      · rw [if_neg (by omega)]
        rfl
      · rw [if_pos (by omega)]
        rfl
    rw [encode, List.flatMap_cons, List.length_append, hlength, List.map_cons, List.sum_cons]
    exact congrArg _ ih

end ObjectModel.Utf16
