import ObjectModel.Heap.Describe
import ObjectModel.Heap.Link

/-!
# Classes without a table

A class can be linked by itself, with any names for its interfaces and with a payload for type information.
Nothing is checked: names may be empty or repeat.
-/

namespace ObjectModel

/-- A class that belongs to no table. -/
structure StandaloneClass where
  interfaceCount : Nat
  payload : Payload
  vector : VectorId
  deriving DecidableEq

namespace StandaloneClass

/-- Links a class with the given interfaces and payload. -/
def link (heap : Heap) (interfaces : List CString) (payload : Payload) : Heap × StandaloneClass :=
  let linked := heap.link interfaces (.ofPayload payload)
  (linked.1, ⟨interfaces.length, payload, linked.2⟩)

/-- The names of the interfaces of a class, in list order. -/
def interfaces (heap : Heap) (c : StandaloneClass) : List CString :=
  heap.names heap.nodes.size (heap.vector c.vector).head

/-- The class in descriptions. -/
def describe (c : StandaloneClass) : String :=
  Text.describeRecord "RawClassRef"
    [("dispatch_vector", c.vector.describe), ("interface_count", Text.describeNat c.interfaceCount),
      ("type_info", Text.quoted c.payload.typeName)]

end StandaloneClass

end ObjectModel
