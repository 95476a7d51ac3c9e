import ObjectModel.Text.Utf8
import ObjectModel.Text.Visible

/-!
# Quoted text

How texts, single characters and byte strings are quoted in messages. All three share one rule: NUL, tab, line
feed, carriage return and the backslash have a short escape, a character with a form of its own stands for
itself, and any other is written by its code point. They differ in the delimiter, in the quote characters
that are escaped, and in whether an ASCII control is written as a byte or as a code point.
-/

namespace ObjectModel.Text

/-- What sets one kind of quoted text apart from the others. -/
structure Quoting where
  delimiter : Char
  escapedQuotes : List Char
  controlsAsBytes : Bool

/-- A text escapes only its own delimiter. -/
def Quoting.text : Quoting :=
  ⟨'"', ['"'], false⟩

/-- A single character escapes only its own delimiter. -/
def Quoting.character : Quoting :=
  ⟨'\'', ['\''], false⟩

/-- A byte string escapes both quotes and writes controls as bytes. -/
def Quoting.bytes : Quoting :=
  ⟨'"', ['"', '\''], true⟩

/-- A byte by its two hexadecimal digits. -/
def byteEscape (n : Nat) : List Char :=
  ['\\', 'x', Nat.digitChar (n / 16 % 16), Nat.digitChar (n % 16)]

/-- A character by its code point in hexadecimal. -/
def codePointEscape (c : Char) : List Char :=
  ['\\', 'u', '\x7b'] ++ Nat.toDigits 16 c.toNat ++ ['\x7d']

/-- One character as it is written between the delimiters. -/
def Quoting.escape (q : Quoting) (c : Char) : List Char :=
  if c = '\x00' then ['\\', '0']
  else if c = '\t' then ['\\', 't']
  else if c = '\n' then ['\\', 'n']
  else if c = '\r' then ['\\', 'r']
  else if c = '\\' ∨ c ∈ q.escapedQuotes then ['\\', c]
  else if hasOwnForm c then [c]
  else if q.controlsAsBytes ∧ c.toNat < 0x80 then byteEscape c.toNat
  else codePointEscape c

/-- A piece of a byte string: its character, or each byte of a broken piece. -/
def Quoting.escapePiece (q : Quoting) : Utf8.Piece → List Char
  | .char c => q.escape c
  | .broken bytes => bytes.flatMap fun b => byteEscape b.toNat

/-- Escaped characters between the delimiters. -/
def Quoting.enclose (q : Quoting) (cs : List Char) : String :=
  String.ofList (q.delimiter :: cs ++ [q.delimiter])

/-- A text in double quotes. -/
def quoted (s : String) : String :=
  Quoting.text.enclose (s.toList.flatMap Quoting.text.escape)

/-- A character in single quotes. -/
def quotedChar (c : Char) : String :=
  Quoting.character.enclose (Quoting.character.escape c)

/-- A byte string in double quotes. -/
def quotedBytes (bytes : List UInt8) : String :=
  Quoting.bytes.enclose ((Utf8.pieces bytes).flatMap Quoting.bytes.escapePiece)

end ObjectModel.Text
