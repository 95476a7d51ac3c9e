import ObjectModel.Element.Bytes
import ObjectModel.Kind

/-!
# The heap

The records that native code reaches through addresses: interface nodes, dispatch vectors, and the headers of
arrays and strings. An address is the position of a record among those of its sort. Records are only ever
added, so an address keeps its meaning; an address that leads nowhere reads as an empty record or as the end of
a list.
-/

namespace ObjectModel

/-- The address of an interface node. -/
structure NodeId where
  index : Nat
  deriving DecidableEq, Repr

/-- The address of a dispatch vector. -/
structure VectorId where
  index : Nat
  deriving DecidableEq, Repr, Hashable

/-- The address of an array header. -/
structure ArrayId where
  index : Nat
  deriving DecidableEq, Repr

/-- One interface of a class, and the node of the next one. -/
structure InterfaceNode where
  name : CString
  next : Option NodeId
  deriving DecidableEq

/-- Type information that a class built without a table may carry. -/
inductive Payload where
  | word (n : UInt32)
  | long (n : Int64)
  | text (s : String)
  | unit
  deriving DecidableEq, Repr

/-- The name of the type of a payload. -/
def Payload.typeName : Payload → String
  | word _ => "u32"
  | long _ => "i64"
  | text _ => "alloc::string::String"
  | unit => "()"

/-- What the type information of a dispatch vector is: nothing, something of unknown origin, that of a loaded
class, or a payload. -/
inductive Metadata where
  | absent
  | foreign
  | ofClass (info : TypeInfo)
  | ofPayload (payload : Payload)
  deriving DecidableEq

/-- The block that all instances of a class share: the head of its interface list and its type information. -/
structure DispatchVector where
  head : Option NodeId
  metadata : Metadata
  deriving DecidableEq

/-- No interfaces and no type information. -/
def DispatchVector.empty : DispatchVector :=
  ⟨none, .absent⟩

/-- What every instance starts with. -/
structure ObjectHeader where
  vector : Option VectorId
  deriving DecidableEq, Repr

/-- What an array starts with: the common header, the stored length, and the memory of its elements, of which
there may be more than the length says. -/
structure ArrayHeader where
  vector : Option VectorId
  length : Int32
  element : ElementType
  data : Option (List element.Value)

namespace ArrayHeader

/-- No class, no length and no memory. -/
def empty : ArrayHeader :=
  ⟨none, 0, .boolean, none⟩

/-- The elements that the length admits; a length of zero or less admits none. -/
def elements (header : ArrayHeader) : List header.element.Value :=
  (header.data.getD []).take header.length.toInt.toNat

/-- The elements that the length admits, if they are of the given type. -/
def elementsAs? (header : ArrayHeader) (t : ElementType) : Option (List t.Value) :=
  if h : header.element = t then some (h ▸ header.elements) else none

/-- The memory of the elements that the length admits, unless the array has no memory. -/
def memory? (header : ArrayHeader) : Option (List UInt8) :=
  header.data.map fun _ => header.element.memory header.elements

/-- The header as that of any instance. -/
def object (header : ArrayHeader) : ObjectHeader :=
  ⟨header.vector⟩

end ArrayHeader

/-- What a string starts with: the common header and its character array. -/
structure StringHeader where
  vector : Option VectorId
  characters : Option ArrayId
  deriving DecidableEq, Repr

/-- The header as that of any instance. -/
def StringHeader.object (header : StringHeader) : ObjectHeader :=
  ⟨header.vector⟩

/-- All records, each sort in the order of creation. -/
structure Heap where
  nodes : Array InterfaceNode
  vectors : Array DispatchVector
  arrays : Array ArrayHeader

namespace Heap

/-- No records. -/
def empty : Heap :=
  ⟨#[], #[], #[]⟩

/-- The node at an address. -/
def node? (heap : Heap) (id : NodeId) : Option InterfaceNode :=
  heap.nodes[id.index]?

/-- The dispatch vector at an address. -/
def vector (heap : Heap) (id : VectorId) : DispatchVector :=
  heap.vectors[id.index]?.getD .empty

/-- The array header at an address. -/
def array (heap : Heap) (id : ArrayId) : ArrayHeader :=
  heap.arrays[id.index]?.getD .empty

/-- Adds nodes at the next addresses. -/
def addNodes (heap : Heap) (nodes : List InterfaceNode) : Heap :=
  { heap with nodes := heap.nodes ++ nodes.toArray }

/-- Adds a dispatch vector and gives its address. -/
def addVector (heap : Heap) (vector : DispatchVector) : Heap × VectorId :=
  ({ heap with vectors := heap.vectors.push vector }, ⟨heap.vectors.size⟩)

/-- Adds an array header and gives its address. -/
def addArray (heap : Heap) (header : ArrayHeader) : Heap × ArrayId :=
  ({ heap with arrays := heap.arrays.push header }, ⟨heap.arrays.size⟩)

/-- An added vector is at the address given for it. -/
@[simp] theorem vector_addVector (heap : Heap) (v : DispatchVector) :
    (heap.addVector v).1.vector (heap.addVector v).2 = v := by
  simp [addVector, vector]

/-- An added header is at the address given for it. -/
@[simp] theorem array_addArray (heap : Heap) (header : ArrayHeader) :
    (heap.addArray header).1.array (heap.addArray header).2 = header := by
  simp [addArray, array]

end Heap

end ObjectModel
