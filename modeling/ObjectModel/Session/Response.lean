import ObjectModel.Encoding.Stored
import ObjectModel.Session.Operand

/-!
# Answers

What a client learns from a request: an answer, or why there is none, and the events emitted on the way.
-/

namespace ObjectModel

/-- Why a request has no answer. -/
inductive Failure where
  /-- The request was not made. -/
  | refused (refusal : Refusal)
  /-- The operation failed. -/
  | faulted (fault : Fault)
  /-- The given configuration was not installed, because another one is. -/
  | alreadyInstalled (config : Config)
  deriving DecidableEq

/-- The message of an attempt to install a second configuration. -/
def alreadyInstalledMessage : String :=
  "a layout configuration is already installed"

/-- A result and the events emitted on the way to it. -/
structure Response (α : Type) where
  result : Except Failure α
  events : List Event

namespace Response

variable {α β : Type}

/-- An answer without an event. -/
def answer (a : α) : Response α :=
  ⟨.ok a, []⟩

/-- A refusal, which emits nothing. -/
def refuse (refusal : Refusal) : Response α :=
  ⟨.error (.refused refusal), []⟩

/-- The response to a request whose operands must stand for something. -/
def given (operand : Except Refusal α) (respond : α → Response β) : Response β :=
  match operand with
  | .ok a => respond a
  | .error refusal => refuse refusal

/-- The response with the value of an operation that cannot fail. -/
def ofLogged (logged : Logged α) (f : α → β) : Response β :=
  ⟨.ok (f logged.value), logged.events⟩

/-- The response with the result of an operation that may fail. -/
def ofOutcome (outcome : Outcome α) (f : α → β) : Response β :=
  ⟨(outcome.value.mapError .faulted).map f, outcome.events⟩

end Response

/-- What is told about a class. The interfaces are listed when they are few. -/
structure ClassView where
  info : TypeInfo
  interfaceCount : Nat
  interfaces : Option (List CString)
  isLinked : Bool

/-- The largest number of interfaces that a class view lists. -/
def listedInterfaces : Nat :=
  64

/-- The view of a class. -/
def LoadedClass.view (heap : Heap) (c : LoadedClass) : ClassView where
  info := c.info
  interfaceCount := c.interfaceCount
  interfaces := if c.interfaceCount ≤ listedInterfaces then some (c.interfaces heap) else none
  isLinked := c.isLinked heap

/-- What is told about a class without a table. -/
structure StandaloneView where
  interfaceCount : Nat
  description : String
  interfaces : List CString
  payload : Payload

/-- What is told about a dispatch vector. -/
structure VectorView where
  description : String
  hasInterfaces : Bool
  name : VectorName
  hasMetadata : Bool

/-- What is told about an interface node. -/
structure NodeView where
  description : String
  name : CString
  next : Option Nat

/-- What is told about the header of any instance. -/
structure ObjectView where
  description : String
  vector : VectorName

/-- What is told about the header of an array. -/
structure ArrayView where
  description : String
  vector : VectorName
  length : Int32
  elements : ElementType.Values
  hasData : Bool

/-- What is told about the header of a string. -/
structure StringView where
  description : String
  vector : VectorName
  characters : ArrayName

/-- What is told about an instance. -/
structure InstanceView where
  ofClass : ClassView
  vector : VectorName
  headerVector : VectorName

/-- What is told about an array. -/
structure ArrayReport where
  length : Int32
  elements : ElementType.Values

/-- What is told about a string. -/
structure StringReport where
  encoding : Encoding
  length : Int32
  units : ElementType.Values
  text : Option String
  charactersVector : VectorName

/-- Things that a client has made and may name by number. -/
inductive Made where
  | tableHandle (i : Nat)
  | liveInstance (i : Nat)
  | standaloneClass (i : Nat)
  | handmadeVector (i : Nat)
  | handmadeObject (i : Nat)
  | handmadeArray (i : Nat)
  | handmadeString (i : Nat)
  | handmadeNodes (first count : Nat)
  deriving DecidableEq, Repr

/-- The answer to a request. -/
inductive Answer where
  | done
  | flag (value : Bool)
  | flagIfKnown (value : Option Bool)
  | length (value : Int32)
  | text (value : String)
  | config (value : Config)
  | previousConfig (value : Option Config)
  | made (what : Made)
  | loaded (id : ClassId)
  | size (count : Nat)
  | classes (listed : List TypeInfo)
  | foundClass (view : Option ClassView)
  | standalone (view : StandaloneView)
  | vectorName (name : VectorName)
  | vector (view : Option VectorView)
  | walked (names : List CString) (rest : Option String)
  | iterated (seen : List (Option CString)) (description : String) (next : Option CString)
  | node (view : Option NodeView)
  | arrayName (name : ArrayName)
  | memory (bytes : Option (List UInt8))
  | object (view : Option ObjectView)
  | array (view : Option ArrayView)
  | string (view : Option StringView)
  | ofInstance (view : InstanceView)
  | ofArray (report : ArrayReport)
  | ofString (report : StringReport)

end ObjectModel
