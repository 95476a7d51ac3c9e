import ObjectModel.Class.Standalone
import ObjectModel.Config.Basic
import ObjectModel.Instance

/-!
# The state of a session

A session is a client's use of the object model: the configuration slot, the heap, and everything that the
client has made and may name. Things of one sort are numbered in the order they were made; a number that was
given up is not used again. Several handles may share one table.
-/

namespace ObjectModel

/-- An instance, with the table handles it was created through. -/
structure OwnedInstance where
  value : Instance
  through : List Nat
  deriving DecidableEq

/-- Everything that a client has made. A handle or an instance that was given up is absent. -/
structure Session where
  slot : ConfigSlot
  heap : Heap
  tables : List ClassTable
  handles : List (Option Nat)
  instances : List (Option OwnedInstance)
  standalone : List StandaloneClass
  nodes : List NodeId
  vectors : List VectorId
  objects : List ObjectHeader
  arrays : List ArrayId
  strings : List StringHeader

namespace Session

/-- The session before anything is made. -/
def start : Session :=
  ⟨.empty, .empty, [], [], [], [], [], [], [], [], []⟩

/-- The configuration in force. -/
def config (s : Session) : Config :=
  s.slot.current

/-- Whether the client has made headers by hand, which may lead to anything made before. -/
def hasForeignHeaders (s : Session) : Bool :=
  !(s.objects.isEmpty && s.arrays.isEmpty && s.strings.isEmpty)

/-- The instances that were not given up. -/
def liveInstances (s : Session) : List OwnedInstance :=
  s.instances.filterMap id

/-- The table that a handle stands for, by its number among all tables. -/
def tableOf? (s : Session) (handle : Nat) : Option Nat :=
  s.handles[handle]?.join

/-- The table that a handle stands for. -/
def table? (s : Session) (handle : Nat) : Option ClassTable :=
  (s.tableOf? handle).bind (s.tables[·]?)

/-- An instance that was not given up. -/
def instance? (s : Session) (i : Nat) : Option Instance :=
  s.instances[i]?.join.map (·.value)

/-- Adds a table and a handle to it. -/
def addTable (s : Session) (heap : Heap) (table : ClassTable) : Session :=
  { s with heap, tables := s.tables ++ [table], handles := s.handles ++ [some s.tables.length] }

/-- Puts a table in the place of what the handle stands for. -/
def setTable (s : Session) (number : Nat) (heap : Heap) (table : ClassTable) : Session :=
  { s with heap, tables := s.tables.set number table }

/-- Adds an instance. -/
def addInstance (s : Session) (heap : Heap) (value : Instance) (through : List Nat) : Session :=
  { s with heap, instances := s.instances ++ [some ⟨value, through⟩] }

end Session

end ObjectModel
