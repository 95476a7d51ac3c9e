import ObjectModel.Heap.Describe
import ObjectModel.OrderedMap
import Std.Data.HashMap

/-!
# Class tables

A class table holds the classes loaded so far, in load order; a class is found by its position, by its name or
by its dispatch vector. The classes are kept by name, and beside them the id of the class of each dispatch
vector. Names and interfaces of a class lie on the heap behind its dispatch vector.
-/

namespace ObjectModel

/-- A class of a table: its type information, the number of its interfaces and its dispatch vector. -/
structure LoadedClass where
  info : TypeInfo
  interfaceCount : Nat
  vector : VectorId
  deriving DecidableEq

namespace LoadedClass

/-- The head of the interface list of a class. -/
def head (heap : Heap) (c : LoadedClass) : Position :=
  (heap.vector c.vector).head

/-- The names of the interfaces of a class, in list order. -/
def interfaces (heap : Heap) (c : LoadedClass) : List CString :=
  heap.names heap.nodes.size (c.head heap)

/-- Whether a class implements the interface of the given name. -/
def implements (heap : Heap) (c : LoadedClass) (name : CString) : Bool :=
  (heap.find name (c.head heap)).getD false

/-- Whether the dispatch vector of a class leads to the type information of that class. -/
def isLinked (heap : Heap) (c : LoadedClass) : Bool :=
  (heap.vector c.vector).metadata = .ofClass c.info

/-- The class in descriptions. -/
def describe (heap : Heap) (c : LoadedClass) : String :=
  Text.describeRecord "ClassRef"
    [("id", c.info.id.describe), ("name", c.info.name.quoted), ("kind", c.info.kind.describe),
      ("interfaces", Text.describeList ((c.interfaces heap).map CString.quoted))]

end LoadedClass

/-- The classes loaded so far, by name and in load order, and the ids of their dispatch vectors. -/
structure ClassTable where
  byName : OrderedMap CString LoadedClass
  idOfVector : Std.HashMap VectorId ClassId

namespace ClassTable

/-- A table without classes. -/
def empty : ClassTable :=
  ⟨.empty, ∅⟩

/-- The number of classes. -/
def size (table : ClassTable) : Nat :=
  table.byName.size

/-- Whether there is no class. -/
def isEmpty (table : ClassTable) : Bool :=
  table.size = 0

/-- The classes, in load order. -/
def classes (table : ClassTable) : List LoadedClass :=
  table.byName.values

/-- The class at a position in load order. -/
def byId? (table : ClassTable) (id : ClassId) : Option LoadedClass :=
  table.byName.getAt? id.index

/-- The class of the given name. -/
def byName? (table : ClassTable) (name : CString) : Option LoadedClass :=
  table.byName.get? name

/-- The class whose name is the given text; no class has a name with NUL. -/
def byString? (table : ClassTable) (name : String) : Option LoadedClass :=
  (CString.ofString? name).bind table.byName?

/-- The class with the given dispatch vector. -/
def byVector? (table : ClassTable) (vector : VectorId) : Option LoadedClass :=
  table.idOfVector[vector]?.bind table.byId?

/-- The table in descriptions. -/
def describe (heap : Heap) (table : ClassTable) : String :=
  Text.describeList (table.classes.map (·.describe heap))

end ClassTable

end ObjectModel
