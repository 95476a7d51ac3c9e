import ObjectModel.Heap.Walk

/-!
# Records in descriptions

How the records of the heap, and references to them, are described in one line.
-/

namespace ObjectModel

/-- A reference to a dispatch vector. -/
def VectorId.describe (_id : VectorId) : String :=
  Text.describeApplied "RawDispatchVectorRef" Text.someAddress

/-- A reference to an interface node. -/
def InterfaceNode.describe (node : InterfaceNode) : String :=
  Text.describeRecord "RawInterfaceNodeRef" [("interface_name", node.name.quoted)]

/-- An iterator over an interface list. -/
def Interfaces.describe (heap : Heap) (it : Interfaces) : String :=
  Text.describeRecord "Interfaces"
    [("node", Text.describeOption ((heap.nodeAt it.position).map InterfaceNode.describe))]

/-- A reference to the header of any instance. -/
def ObjectHeader.describe (header : ObjectHeader) : String :=
  Text.describeRecord "RawObjectRef"
    [("ptr", Text.someAddress), ("dispatch_vector", Text.describeOption (header.vector.map VectorId.describe))]

/-- A reference to the header of an array. -/
def ArrayHeader.describe (header : ArrayHeader) : String :=
  Text.describeRecord "RawArrayRef"
    [("ptr", Text.someAddress), ("length", Text.describeInt header.length.toInt),
      ("data", if header.data.isSome then Text.someAddress else Text.nullAddress)]

/-- A reference to the header of a string. -/
def StringHeader.describe (heap : Heap) (header : StringHeader) : String :=
  let characters := header.characters.map fun a => (heap.array a).describe
  Text.describeRecord "RawStringRef"
    [("ptr", Text.someAddress), ("characters", Text.describeOption characters)]

end ObjectModel
