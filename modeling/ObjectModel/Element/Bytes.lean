import ObjectModel.Element.Basic

/-!
# Elements in memory

An array stores its elements one after the other, each in as many bytes as its type has, least significant byte
first. A signed value is stored in two's complement, a boolean as zero or one, a floating-point value as its
bit pattern.
-/

namespace ObjectModel

/-- The given number of bytes of a natural number, least significant first. -/
def littleEndian : Nat → Nat → List UInt8
  | 0, _ => []
  | count + 1, n => UInt8.ofNat n :: littleEndian count (n / 256)

/-- The natural number with the given bytes, least significant first. -/
def ofLittleEndian : List UInt8 → Nat
  | [] => 0
  | b :: rest => b.toNat + 256 * ofLittleEndian rest

namespace ElementType

/-- The bits of a value, as a natural number. -/
def pattern : (t : ElementType) → t.Value → Nat
  | .boolean, v => Bool.toNat v
  | .byte, v => (Int8.toUInt8 v).toNat
  | .char, v => UInt16.toNat v
  | .short, v => (Int16.toUInt16 v).toNat
  | .int, v => (Int32.toUInt32 v).toNat
  | .long, v => (Int64.toUInt64 v).toNat
  | .float, v => UInt32.toNat v
  | .double, v => UInt64.toNat v

/-- The value with the given bits. -/
def ofPattern : (t : ElementType) → Nat → t.Value
  | .boolean, n => decide (n ≠ 0)
  | .byte, n => (UInt8.ofNat n).toInt8
  | .char, n => UInt16.ofNat n
  | .short, n => (UInt16.ofNat n).toInt16
  | .int, n => (UInt32.ofNat n).toInt32
  | .long, n => (UInt64.ofNat n).toInt64
  | .float, n => UInt32.ofNat n
  | .double, n => UInt64.ofNat n

/-- The bytes of one element. -/
def bytes (t : ElementType) (v : t.Value) : List UInt8 :=
  littleEndian t.size (t.pattern v)

/-- The element with the given bytes. -/
def ofBytes (t : ElementType) (bs : List UInt8) : t.Value :=
  t.ofPattern (ofLittleEndian bs)

/-- The memory that holds the given elements. -/
def memory (t : ElementType) (values : List t.Value) : List UInt8 :=
  values.flatMap t.bytes

end ElementType

end ObjectModel
