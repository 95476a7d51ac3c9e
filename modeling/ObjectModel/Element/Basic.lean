import ObjectModel.Decimal.Written

/-!
# Element types

The eight primitive types an array can hold, with their names, sizes and array descriptors, and the values of
each. A floating-point value is its bit pattern, so that every pattern is a value of its own.
-/

namespace ObjectModel

/-- The primitive element type of an array. -/
inductive ElementType where
  | boolean
  | byte
  | char
  | short
  | int
  | long
  | float
  | double
  deriving DecidableEq, Repr

namespace ElementType

/-- All element types, in descriptor order. -/
def all : List ElementType :=
  [.boolean, .byte, .char, .short, .int, .long, .float, .double]

/-- The name of the primitive type. -/
def name : ElementType → String
  | .boolean => "boolean"
  | .byte => "byte"
  | .char => "char"
  | .short => "short"
  | .int => "int"
  | .long => "long"
  | .float => "float"
  | .double => "double"

/-- The element type with the given name. -/
def ofName? (text : String) : Option ElementType :=
  all.find? (·.name = text)

/-- The name in descriptions. -/
def describe : ElementType → String
  | .boolean => "Boolean"
  | .byte => "Byte"
  | .char => "Char"
  | .short => "Short"
  | .int => "Int"
  | .long => "Long"
  | .float => "Float"
  | .double => "Double"

/-- The size of one element in bytes. -/
def size : ElementType → Nat
  | .boolean | .byte => 1
  | .char | .short => 2
  | .int | .float => 4
  | .long | .double => 8

/-- The descriptor of the array class with this element type. -/
def arrayDescriptor : ElementType → String
  | .boolean => "[Z"
  | .byte => "[B"
  | .char => "[C"
  | .short => "[S"
  | .int => "[I"
  | .long => "[J"
  | .float => "[F"
  | .double => "[D"

/-- The values of an element type. -/
abbrev Value : ElementType → Type
  | .boolean => Bool
  | .byte => Int8
  | .char => UInt16
  | .short => Int16
  | .int => Int32
  | .long => Int64
  | .float => UInt32
  | .double => UInt64

/-- Values of one element type are compared as what they are. -/
instance decidableEqValue : (t : ElementType) → DecidableEq t.Value
  | .boolean => inferInstanceAs (DecidableEq Bool)
  | .byte => inferInstanceAs (DecidableEq Int8)
  | .char => inferInstanceAs (DecidableEq UInt16)
  | .short => inferInstanceAs (DecidableEq Int16)
  | .int => inferInstanceAs (DecidableEq Int32)
  | .long => inferInstanceAs (DecidableEq Int64)
  | .float => inferInstanceAs (DecidableEq UInt32)
  | .double => inferInstanceAs (DecidableEq UInt64)

/-- A value in a description. -/
def describeValue : (t : ElementType) → t.Value → String
  | .boolean, v => Text.describeBool v
  | .byte, v => Text.describeInt (Int8.toInt v)
  | .char, v => Text.describeNat (UInt16.toNat v)
  | .short, v => Text.describeInt (Int16.toInt v)
  | .int, v => Text.describeInt (Int32.toInt v)
  | .long, v => Text.describeInt (Int64.toInt v)
  | .float, v => Decimal.written .single (UInt32.toNat v)
  | .double, v => Decimal.written .double (UInt64.toNat v)

/-- Values of one element type, with that type. -/
structure Values where
  type : ElementType
  values : List type.Value

/-- Every element type is listed. -/
theorem mem_all (t : ElementType) : t ∈ all := by
  cases t <;> decide

/-- Reading a name finds the element type that has it. -/
theorem ofName?_name (t : ElementType) : ofName? t.name = some t := by
  cases t <;> decide

end ElementType

end ObjectModel
