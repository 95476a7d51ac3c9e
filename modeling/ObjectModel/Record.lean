/-!
# Record layout

How the five records of the object model lie in memory on a target with 64-bit addresses. Fields follow each
other in order, each at the next multiple of its alignment; a record is aligned as its most aligned field and
its size is a multiple of that alignment.
-/

namespace ObjectModel.Record

/-- The size and alignment of a field or record, in bytes. -/
structure Extent where
  size : Nat
  alignment : Nat
  deriving DecidableEq, Repr

/-- An address. -/
def address : Extent :=
  ⟨8, 8⟩

/-- A 32-bit number. -/
def word32 : Extent :=
  ⟨4, 4⟩

/-- The least multiple of `alignment` from `offset` on. -/
def alignUp (offset alignment : Nat) : Nat :=
  (offset + alignment - 1) / alignment * alignment

/-- The extent of a record with the given fields, in order. -/
def ofFields (fields : List Extent) : Extent :=
  let alignment := fields.foldl (fun a field => max a field.alignment) 1
  let finish := fields.foldl (fun offset field => alignUp offset field.alignment + field.size) 0
  ⟨alignUp finish alignment, alignment⟩

/-- The next node and the name. -/
def interfaceNode : Extent :=
  ofFields [address, address]

/-- The head of the interface list and the type information. -/
def dispatchVector : Extent :=
  ofFields [address, address]

/-- The dispatch vector. -/
def objectHeader : Extent :=
  ofFields [address]

/-- The object header, the length and the data. -/
def arrayHeader : Extent :=
  ofFields [objectHeader, word32, address]

/-- The object header and the character array. -/
def stringHeader : Extent :=
  ofFields [objectHeader, address]

/-- The records by name. -/
def all : List (String × Extent) :=
  [("InterfaceNode", interfaceNode), ("DispatchVector", dispatchVector), ("ObjectHeader", objectHeader),
    ("ArrayHeader", arrayHeader), ("StringHeader", stringHeader)]

/-- The array header has a gap of four bytes between its length and its data. -/
theorem arrayHeader_eq : arrayHeader = ⟨24, 8⟩ := rfl

end ObjectModel.Record
