/-!
# UTF-8

The bytes of a text, and the text of bytes. A lead byte fixes how many bytes follow it and the range each of
them lies in, which leaves no overlong form, no surrogate and nothing above U+10FFFF. Bytes fall into pieces:
each piece is one character or a maximal run that begins a character and does not finish it. A text is read
strictly, where the first such run is refused with the number of bytes ahead of it, or leniently, where each
run becomes U+FFFD.
-/

namespace ObjectModel.Utf8

/-- The bytes of one character. -/
def encodeChar (c : Char) : List UInt8 :=
  let n := c.toNat
  if n < 0x80 then [UInt8.ofNat n]
  else if n < 0x800 then [UInt8.ofNat (0xC0 + n / 64), UInt8.ofNat (0x80 + n % 64)]
  else if n < 0x10000 then
    [UInt8.ofNat (0xE0 + n / 4096), UInt8.ofNat (0x80 + n / 64 % 64), UInt8.ofNat (0x80 + n % 64)]
  else
    [UInt8.ofNat (0xF0 + n / 262144), UInt8.ofNat (0x80 + n / 4096 % 64), UInt8.ofNat (0x80 + n / 64 % 64),
      UInt8.ofNat (0x80 + n % 64)]

/-- The bytes of a text. -/
def encode (cs : List Char) : List UInt8 :=
  cs.flatMap encodeChar

/-- The bytes of a string. -/
def bytesOf (s : String) : List UInt8 :=
  encode s.toList

/-- An inclusive range of byte values. -/
structure ByteRange where
  low : Nat
  high : Nat
  deriving DecidableEq, Repr

/-- Whether a byte lies in the range. -/
def ByteRange.contains (range : ByteRange) (b : UInt8) : Bool :=
  range.low ≤ b.toNat && b.toNat ≤ range.high

/-- The range of a continuation byte that nothing restricts further. -/
def continuation : ByteRange :=
  ⟨0x80, 0xBF⟩

/-- The bits a lead byte contributes and the ranges of the bytes that follow it, if it is a lead byte. -/
def lead? (b : UInt8) : Option (Nat × List ByteRange) :=
  let n := b.toNat
  if n < 0x80 then some (n, [])
  else if n < 0xC2 then none
  else if n < 0xE0 then some (n - 0xC0, [continuation])
  else if n < 0xF0 then
    some (n - 0xE0, [⟨if n = 0xE0 then 0xA0 else 0x80, if n = 0xED then 0x9F else 0xBF⟩, continuation])
  else if n < 0xF5 then
    some (n - 0xF0,
      [⟨if n = 0xF0 then 0x90 else 0x80, if n = 0xF4 then 0x8F else 0xBF⟩, continuation, continuation])
  else none

/-- The six bits that a continuation byte contributes. -/
def continuationBits (b : UInt8) : Nat :=
  b.toNat % 64

/-- The bytes that lie in the given ranges: how many they are, and the accumulated bits if none is missing. -/
def follow (bits : Nat) : List ByteRange → List UInt8 → Option Nat × Nat
  | [], _ => (some bits, 0)
  | _ :: _, [] => (none, 0)
  | range :: ranges, b :: rest =>
    if range.contains b then
      let (value, count) := follow (bits * 64 + continuationBits b) ranges rest
      (value, count + 1)
    else (none, 0)

/-- A part of a sequence of bytes: one character, or bytes that are not the whole of one. -/
inductive Piece where
  | char (c : Char)
  | broken (bytes : List UInt8)
  deriving DecidableEq, Repr

/-- The first piece of bytes that start with `b`, and how many of the bytes after `b` belong to it. -/
def firstPiece (b : UInt8) (rest : List UInt8) : Piece × Nat :=
  match lead? b with
  | none => (.broken [b], 0)
  | some (bits, ranges) =>
    match follow bits ranges rest with
    | (some value, count) => (.char (Char.ofNat value), count)
    | (none, count) => (.broken (b :: rest.take count), count)

/-- The pieces of a sequence of bytes, in order, after those already found (latest first). -/
def piecesFrom (found : List Piece) : List UInt8 → List Piece
  | [] => found.reverse
  | b :: rest =>
    piecesFrom ((firstPiece b rest).1 :: found) (rest.drop (firstPiece b rest).2)
termination_by bytes => bytes.length
decreasing_by simp only [List.length_drop, List.length_cons]; omega

/-- The pieces of a sequence of bytes, in order. -/
def pieces (bytes : List UInt8) : List Piece :=
  piecesFrom [] bytes

/-- The character of a piece, if it is one. -/
def Piece.char? : Piece → Option Char
  | .char c => some c
  | .broken _ => none

/-- The characters ahead of the first broken piece. -/
def leadingChars (ps : List Piece) : List Char :=
  (ps.takeWhile (·.char?.isSome)).filterMap (·.char?)

/-- The text of well-formed bytes; otherwise the number of bytes ahead of the first broken piece. -/
def decode (bytes : List UInt8) : Except Nat (List Char) :=
  let ps := pieces bytes
  let cs := leadingChars ps
  if cs.length = ps.length then .ok cs else .error (encode cs).length

/-- The text of any bytes, with U+FFFD in place of each broken piece. -/
def decodeLossy (bytes : List UInt8) : List Char :=
  (pieces bytes).map fun p => p.char?.getD '\uFFFD'

/-- Reading on from pieces already found puts them in front. -/
theorem piecesFrom_eq (found : List Piece) (bytes : List UInt8) :
    piecesFrom found bytes = found.reverse ++ pieces bytes := by
  unfold pieces
  induction hn : bytes.length using Nat.strongRecOn generalizing bytes found with
  | _ n ih =>
    cases bytes with
    | nil => simp [piecesFrom]
    | cons b rest =>
      have hlt : (rest.drop (firstPiece b rest).2).length < n := by
        subst hn; simp only [List.length_drop, List.length_cons]; omega
      rw [piecesFrom, ih _ hlt _ _ rfl, piecesFrom, ih _ hlt [(firstPiece b rest).1] _ rfl]
      simp

/-- No bytes, no pieces. -/
@[simp] theorem pieces_nil : pieces [] = [] := by
  simp [pieces, piecesFrom]

/-- The pieces of bytes are the first piece and the pieces of what it leaves. -/
theorem pieces_cons (b : UInt8) (rest : List UInt8) :
    pieces (b :: rest) = (firstPiece b rest).1 :: pieces (rest.drop (firstPiece b rest).2) := by
  rw [pieces, piecesFrom, piecesFrom_eq]
  rfl

end ObjectModel.Utf8
