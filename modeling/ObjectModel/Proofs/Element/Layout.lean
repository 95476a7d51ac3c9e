import Mathlib.Algebra.Order.Ring.Int
import Mathlib.Tactic.Ring
import ObjectModel.Element.Bytes

/-!
# Where elements lie in memory

Each byte of the memory of an array is said by position: an element begins as many bytes behind the first one as the
elements ahead of it take up, and its bytes are the digits of its number to the base 256, the lowest first. Memory that is
cut into groups of the size of one element is read back as the elements.
-/

namespace ObjectModel

namespace ElementType

/-- The number that a value stands for: a truth value is zero or one, and a floating-point value is its bit pattern. -/
def number : (t : ElementType) → t.Value → Int
  | .boolean, v => if (v : Bool) then 1 else 0
  | .byte, v => Int8.toInt v
  | .char, v => UInt16.toNat v
  | .short, v => Int16.toInt v
  | .int, v => Int32.toInt v
  | .long, v => Int64.toInt v
  | .float, v => UInt32.toNat v
  | .double, v => UInt64.toNat v

/-- The values in memory, each read from a group of as many bytes as one value has. -/
def ofMemory (t : ElementType) (bytes : List UInt8) : List t.Value :=
  (List.range (bytes.length / t.size)).map fun i => t.ofBytes ((bytes.drop (i * t.size)).take t.size)

/-- The bytes hold the values one after the other and nothing else. A negative number is one in two's complement, whose
digits to the base 256 are those of the number that is rounded down at each division. -/
structure Holds (t : ElementType) (bytes : List UInt8) (values : List t.Value) : Prop where
  length : bytes.length = values.length * t.size
  digits : ∀ i v k, values[i]? = some v → k < t.size →
    ∃ b, bytes[i * t.size + k]? = some b ∧ (b.toNat : Int) = t.number v / 256 ^ k % 256
  groups : t.ofMemory bytes = values

variable {t : ElementType} {values : List t.Value} {v : t.Value}

end ElementType

namespace ElementType

variable {t : ElementType} {values : List t.Value} {v : t.Value}

end ElementType

end ObjectModel
