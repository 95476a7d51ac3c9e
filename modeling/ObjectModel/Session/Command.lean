import ObjectModel.Session.Response

/-!
# Commands

The requests that change a session. A command that fails or is refused has no next session, so it changes
nothing. Loading changes only the table behind the given handle, and the heap only by additions. What the client
has made by hand may lead to any class or array, so while such headers exist no table handle and no instance
can be given up; and a handle cannot be given up while an instance lives that was created through it.
-/

namespace ObjectModel

/-- An interface node to be made by hand: its name, and the number of the node it leads to. -/
structure HandmadeNode where
  name : CString
  next : Option Nat
  deriving DecidableEq

/-- A request that changes the session. -/
inductive Command where
  | install (config : Config)
  | replace (config : Config)
  | newTable
  | newBuiltinTable
  | cloneTable (handle : Nat)
  | dropTable (handle : Nat)
  | load (handle : Nat) (definition : ClassDefinition)
  | linkClass (interfaces : List CString) (payload : Payload)
  | makeNodes (nodes : List HandmadeNode)
  | makeVector (head : Option Nat) (hasMetadata : Bool)
  | makeObject (vector : VectorOperand)
  | makeArray (vector : VectorOperand) (length : Int32) (element : ElementType) (data : Option (List element.Value))
  | makeString (vector : VectorOperand) (characters : ArrayOperand)
  | newObject (ofClass : ClassOperand)
  | newArray (ofClass : ClassOperand) (element : ElementType) (values : List element.Value)
  | newString (ofClass charactersClass : ClassOperand) (text : String) (e : Encoding)
  | newStringIn (handle : Nat) (text : String)
  | dropInstance (i : Nat)

/-- The next session and the answer. -/
abbrev Change :=
  Response (Session × Answer)

namespace Session

open Response

/-- A change without an event that makes something. -/
def makes (next : Session) (what : Made) : Change :=
  answer (next, .made what)

/-- A change to the address that a number of a handmade node stands for; a number too large is refused. -/
def nodeAddress (known : Array NodeId) : Option Nat → Except Refusal (Option NodeId)
  | none => .ok none
  | some i => (orRefuse .badOperand known[i]?).map some

/-- Makes interface nodes, which may lead to each other and to those made before. -/
def makeNodes (s : Session) (nodes : List HandmadeNode) : Change :=
  let fresh := (List.range nodes.length).map fun i => NodeId.mk (s.heap.nodes.size + i)
  let known := s.nodes ++ fresh
  let index := known.toArray
  let linked := nodes.mapM fun node =>
    (nodeAddress index node.next).map fun next => InterfaceNode.mk node.name next
  given linked fun linked =>
    makes { s with heap := s.heap.addNodes linked, nodes := known } (.handmadeNodes s.nodes.length nodes.length)

/-- Makes a dispatch vector. -/
def makeVector (s : Session) (head : Option Nat) (hasMetadata : Bool) : Change :=
  given (nodeAddress s.nodes.toArray head) fun head =>
    let added := s.heap.addVector ⟨head, if hasMetadata then .foreign else .absent⟩
    makes { s with heap := added.1, vectors := s.vectors ++ [added.2] } (.handmadeVector s.vectors.length)

/-- Makes an array header over memory with at least as many elements as the length says. -/
def makeArray (s : Session) (vector : VectorOperand) (header : Option VectorId → ArrayHeader) : Change :=
  given (s.vector vector) fun vector =>
    let header := header vector
    if (header.data.getD []).length < header.length.toInt then refuse .badOperand
    else
      let added := s.heap.addArray header
      makes { s with heap := added.1, arrays := s.arrays ++ [added.2] } (.handmadeArray s.arrays.length)

/-- Adds a table that loading gave. -/
def newBuiltinTable (s : Session) : Change :=
  ofOutcome (ClassTable.withBuiltins s.config.walkBound s.heap) fun built =>
    (s.addTable built.1 built.2, .made (.tableHandle s.handles.length))

/-- Adds a handle for the table of another one. -/
def cloneTable (s : Session) (handle : Nat) : Change :=
  given (orRefuse .badOperand (s.tableOf? handle)) fun number =>
    makes { s with handles := s.handles ++ [some number] } (.tableHandle s.handles.length)

/-- Gives up a handle that nothing was created through. -/
def dropTable (s : Session) (handle : Nat) : Change :=
  given (orRefuse .badOperand (s.tableOf? handle)) fun _ =>
    if s.hasForeignHeaders || s.liveInstances.any (·.through.contains handle) then refuse .inUse
    else answer ({ s with handles := s.handles.set handle none }, .done)

/-- Loads a class into the table of a handle. -/
def load (s : Session) (handle : Nat) (definition : ClassDefinition) : Change :=
  given (orRefuse .badOperand (s.tableOf? handle)) fun number =>
    given (orRefuse .badOperand s.tables[number]?) fun table =>
      ofOutcome (table.load s.config.walkBound s.heap definition) fun loaded =>
        (s.setTable number loaded.heap loaded.table, .loaded loaded.newest.info.id)

/-- Adds an instance that creation gave, through the given handles. -/
def created (s : Session) (result : Except Fault (Heap × Instance)) (through : List Nat) : Change :=
  ofOutcome ⟨result, []⟩ fun made =>
    (s.addInstance made.1 made.2 through, .made (.liveInstance s.instances.length))

/-- Gives up an instance. -/
def dropInstance (s : Session) (i : Nat) : Change :=
  given (s.liveInstance i) fun _ =>
    if s.hasForeignHeaders then refuse .inUse
    else answer ({ s with instances := s.instances.set i none }, .done)

/-- The effect of a command. -/
def attempt (s : Session) : Command → Change
  | .install config =>
    match s.slot.install? config with
    | some slot => ⟨.ok ({ s with slot }, .done), [.installing config]⟩
    | none => ⟨.error (.alreadyInstalled config), []⟩
  | .replace config =>
    ⟨.ok ({ s with slot := s.slot.replace config }, .previousConfig s.slot.installed), [.replacing config]⟩
  | .newTable => makes (s.addTable s.heap .empty) (.tableHandle s.handles.length)
  | .newBuiltinTable => s.newBuiltinTable
  | .cloneTable handle => s.cloneTable handle
  | .dropTable handle => s.dropTable handle
  | .load handle definition => s.load handle definition
  | .linkClass interfaces payload =>
    let linked := StandaloneClass.link s.heap interfaces payload
    makes { s with heap := linked.1, standalone := s.standalone ++ [linked.2] } (.standaloneClass s.standalone.length)
  | .makeNodes nodes => s.makeNodes nodes
  | .makeVector head hasMetadata => s.makeVector head hasMetadata
  | .makeObject vector =>
    given (s.vector vector) fun vector =>
      makes { s with objects := s.objects ++ [⟨vector⟩] } (.handmadeObject s.objects.length)
  | .makeArray vector length element data => s.makeArray vector fun vector => ⟨vector, length, element, data⟩
  | .makeString vector characters =>
    given (s.vector vector) fun vector =>
      given (s.array characters) fun characters =>
        makes { s with strings := s.strings ++ [⟨vector, characters⟩] } (.handmadeString s.strings.length)
  | .newObject operand =>
    given (s.classOf operand) fun c =>
      s.created ((Instance.newObject c).map (s.heap, ·)) [operand.handle]
  | .newArray operand element values =>
    given (s.classOf operand) fun c => s.created (Instance.newArray s.heap c element values) [operand.handle]
  | .newString operand charactersOperand text e =>
    given (s.classOf operand) fun c =>
      given (s.classOf charactersOperand) fun charactersClass =>
        s.created (Instance.newString s.heap c charactersClass text e) [operand.handle, charactersOperand.handle]
  | .newStringIn handle text =>
    given (s.table handle) fun table => s.created (Instance.newStringIn s.heap table s.config text) [handle]
  | .dropInstance i => s.dropInstance i

end Session

end ObjectModel
