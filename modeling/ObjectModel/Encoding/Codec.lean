import ObjectModel.Encoding.Basic
import ObjectModel.Fault
import ObjectModel.Text.Utf16

/-!
# Encoding and decoding characters

Each encoding turns a text into elements of its element type and such elements into text. UTF-16 and UTF-8
encode every text and decode the well-formed elements; Latin-1 encodes the characters up to U+00FF and decodes
all elements. A failure names the first offender.
-/

namespace ObjectModel.Encoding

/-- The last character that Latin-1 has. -/
def latin1Last : Nat :=
  0xFF

/-- The elements of a text. -/
def encode : (e : Encoding) → List Char → Except Fault (List e.elementType.Value)
  | .utf16, cs => .ok (Utf16.encode cs)
  | .latin1, cs =>
    match cs.find? (latin1Last < ·.toNat) with
    | some c => .error (.outsideLatin1 c)
    | none => .ok (cs.map fun c => (UInt8.ofNat c.toNat).toInt8)
  | .utf8, cs => .ok ((Utf8.encode cs).map UInt8.toInt8)

/-- How many elements a text needs, for the encodings in which its string knows that. -/
def knownLength? : Encoding → String → Option Nat
  | .utf16, _ => none
  | .latin1, text => some text.length
  | .utf8, text => some text.utf8ByteSize

/-- Whether an encoding has all characters of a text. -/
def hasAll : Encoding → String → Bool
  | .latin1, text => text.all fun (c : Char) => c.toNat ≤ latin1Last
  | .utf16, _ => true
  | .utf8, _ => true

/-- The text of elements. -/
def decode : (e : Encoding) → List e.elementType.Value → Except Fault (List Char)
  | .utf16, units => (Utf16.decode units).mapError .unpairedSurrogate
  | .latin1, bytes => .ok (bytes.map fun b => Char.ofNat (Int8.toUInt8 b).toNat)
  | .utf8, bytes => (Utf8.decode (bytes.map Int8.toUInt8)).mapError .invalidUtf8

end ObjectModel.Encoding
