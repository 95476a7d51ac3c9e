/-!
# UTF-16

The code units of a text, and the text of code units. A character above U+FFFF is written as a high surrogate
and a low one. A surrogate that is not part of such a pair belongs to no text, and reading refuses the first.
-/

namespace ObjectModel.Utf16

/-- The units of one character. -/
def encodeChar (c : Char) : List UInt16 :=
  let n := c.toNat
  if n < 0x10000 then [UInt16.ofNat n]
  else [UInt16.ofNat (0xD800 + (n - 0x10000) / 0x400), UInt16.ofNat (0xDC00 + (n - 0x10000) % 0x400)]

/-- The units of a text. -/
def encode (cs : List Char) : List UInt16 :=
  cs.flatMap encodeChar

/-- Whether a unit is the first half of a pair. -/
def isHigh (u : UInt16) : Bool :=
  0xD800 ≤ u.toNat && u.toNat < 0xDC00

/-- Whether a unit is the second half of a pair. -/
def isLow (u : UInt16) : Bool :=
  0xDC00 ≤ u.toNat && u.toNat < 0xE000

/-- The character of a high surrogate and the low one after it. -/
def pair (high low : UInt16) : Char :=
  Char.ofNat (0x10000 + (high.toNat - 0xD800) * 0x400 + (low.toNat - 0xDC00))

/-- Reads units on from characters already read (latest first). -/
def decodeFrom (read : List Char) : List UInt16 → Except UInt16 (List Char)
  | [] => .ok read.reverse
  | u :: rest =>
    if isHigh u then
      match rest with
      | v :: rest => if isLow v then decodeFrom (pair u v :: read) rest else .error u
      | [] => .error u
    else if isLow u then .error u
    else decodeFrom (Char.ofNat u.toNat :: read) rest

/-- The text of well-formed units; otherwise the first surrogate that is not half of a pair. -/
def decode (units : List UInt16) : Except UInt16 (List Char) :=
  decodeFrom [] units

/-- Reading on from characters already read puts them in front. -/
theorem decodeFrom_eq (read : List Char) (units : List UInt16) :
    decodeFrom read units = (decode units).map (read.reverse ++ ·) := by
  unfold decode
  induction hn : units.length using Nat.strongRecOn generalizing units read with
  | _ n ih =>
    match units with
    | [] => simp [decodeFrom, Except.map]
    | [u] =>
      simp only [decodeFrom]
      split
      · rfl
      · split
        · rfl
        · simp [Except.map]
    | u :: v :: rest =>
      have h₁ : rest.length < n := by subst hn; simp only [List.length_cons]; omega
      have h₂ : (v :: rest).length < n := by subst hn; simp only [List.length_cons]; omega
      rw [decodeFrom, decodeFrom]
      split
      · split
        · rw [ih _ h₁ _ _ rfl, ih _ h₁ [_] _ rfl]
          cases decodeFrom [] rest <;> simp [Except.map]
        · rfl
      · split
        · rfl
        · rw [ih _ h₂ _ _ rfl, ih _ h₂ [_] _ rfl]
          cases decodeFrom [] (v :: rest) <;> simp [Except.map]

end ObjectModel.Utf16
