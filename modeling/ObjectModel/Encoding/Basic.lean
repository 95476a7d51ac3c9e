import ObjectModel.Element.Basic

/-!
# String encodings

How the characters of a string are stored in its character array: UTF-16 units in an array of characters, or
Latin-1 or UTF-8 bytes in an array of bytes. The two byte encodings share their element type, so nothing in an
array tells which of them it was written with.
-/

namespace ObjectModel

/-- The encoding of a character array. -/
inductive Encoding where
  | utf16
  | latin1
  | utf8
  deriving DecidableEq, Repr

namespace Encoding

/-- All encodings. -/
def all : List Encoding :=
  [.utf16, .latin1, .utf8]

/-- The name as an option. -/
def name : Encoding → String
  | .utf16 => "utf16"
  | .latin1 => "latin1"
  | .utf8 => "utf8"

/-- The encoding with the given name. -/
def ofName? (text : String) : Option Encoding :=
  all.find? (·.name = text)

/-- The name in descriptions. -/
def describe : Encoding → String
  | .utf16 => "Utf16"
  | .latin1 => "Latin1"
  | .utf8 => "Utf8"

/-- The element type of character arrays in this encoding. -/
abbrev elementType : Encoding → ElementType
  | .utf16 => .char
  | .latin1 => .byte
  | .utf8 => .byte

/-- Reading a name finds the encoding that has it. -/
theorem ofName?_name (e : Encoding) : ofName? e.name = some e := by
  cases e <;> decide

end Encoding

end ObjectModel
