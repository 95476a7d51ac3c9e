import ObjectModel.Config.Basic
import ObjectModel.Fault

/-!
# Events

What the operations of the object model report while they run. An event is a happening with the values it is
about; its level, message and fields follow from it. An operation returns the events it emits, in order,
beside its result.
-/

namespace ObjectModel

/-- The entry points that native code calls. -/
inductive EntryPoint where
  | dispatchVector
  | implementsInterface
  | arrayLength
  | arrayData
  | stringCharacters
  deriving DecidableEq, Repr

/-- The symbol of an entry point. -/
def EntryPoint.symbol : EntryPoint → String
  | .dispatchVector => "objlayout_dispatch_vector"
  | .implementsInterface => "objlayout_implements_interface"
  | .arrayLength => "objlayout_array_length"
  | .arrayData => "objlayout_array_data"
  | .stringCharacters => "objlayout_string_characters"

/-- How grave an event is. -/
inductive Level where
  | trace
  | debug
  | warn
  | error
  deriving DecidableEq, Repr

/-- The name of a level. -/
def Level.name : Level → String
  | .trace => "TRACE"
  | .debug => "DEBUG"
  | .warn => "WARN"
  | .error => "ERROR"

/-- A field of an event: a number, a truth value or a text. -/
inductive Field where
  | number (value : Int)
  | flag (value : Bool)
  | text (value : String)
  deriving DecidableEq, Repr

/-- Something that an operation reports. -/
inductive Event where
  /-- A configuration is being installed. -/
  | installing (config : Config)
  /-- A configuration is being put in place of another. -/
  | replacing (config : Config)
  /-- The bound in an option is no number in range. -/
  | invalidBound (option : String)
  /-- An option is none of those known. -/
  | unknownOption (option : String)
  /-- A definition lists more interfaces than allowed. -/
  | tooManyInterfaces (className : CString) (count limit : Nat)
  /-- A definition lists an interface twice. -/
  | repeatedInterface (className : CString) (interfaceName : String)
  /-- A class was loaded. -/
  | loadedClass (info : TypeInfo) (interfaceCount : Nat)
  /-- An interface was looked up through a class. -/
  | classLookup (className interfaceName : CString) (found : Bool)
  /-- An interface was looked up through a dispatch vector. -/
  | vectorLookup (interfaceName : CString) (found : Bool)
  /-- An interface list has more nodes than may be visited. -/
  | walkBoundExceeded (limit : Nat)
  /-- A header has no dispatch vector. -/
  | noDispatchVector
  /-- An array stores a negative length. -/
  | negativeLength (length : Int32)
  /-- A string has no character array. -/
  | noCharacters
  /-- The character array of a string to decode stores a negative length. -/
  | negativeCharacterLength (length : Int32)
  /-- An entry point for native code failed. -/
  | violation (entry : EntryPoint)
  deriving DecidableEq

namespace Event

/-- The level of an event. -/
def level : Event → Level
  | installing _ | replacing _ | loadedClass .. => .debug
  | classLookup .. | vectorLookup .. => .trace
  | invalidBound _ | unknownOption _ | tooManyInterfaces .. | repeatedInterface .. | walkBoundExceeded _ |
    noDispatchVector | negativeLength _ | noCharacters | negativeCharacterLength _ => .warn
  | violation _ => .error

/-- The message of an event. -/
def message : Event → String
  | installing _ => "installing layout configuration"
  | replacing _ => "replacing layout configuration"
  | invalidBound _ => "ignoring invalid interface bound"
  | unknownOption _ => "ignoring unknown layout option"
  | tooManyInterfaces .. => "too many interfaces"
  | repeatedInterface .. => "interface listed twice"
  | loadedClass .. => "loaded class"
  | classLookup .. | vectorLookup .. => "interface lookup"
  | walkBoundExceeded _ => "interface list exceeds the walk bound"
  | noDispatchVector => "instance header has no dispatch vector"
  | negativeLength _ => "negative array length"
  | noCharacters => "string has no character array"
  | negativeCharacterLength _ => "negative character array length"
  | violation _ => "object layout violation"

/-- The fields of an event by name. A violation has one more, `report`, which shows the fault with its details and where it
arose. A library for error reports words it, not the object model, so it is left out. -/
def fields : Event → List (String × Field)
  | installing config | replacing config => [("config", .text config.describe)]
  | invalidBound option | unknownOption option => [("option", .text option)]
  | tooManyInterfaces className count limit =>
    [("class", .text className.quoted), ("count", .number count), ("limit", .number limit)]
  | repeatedInterface className interfaceName =>
    [("class", .text className.quoted), ("interface", .text interfaceName)]
  | loadedClass info interfaceCount =>
    [("class", .text info.name.quoted), ("id", .text info.id.display), ("kind", .text info.kind.describe),
      ("interface_count", .number interfaceCount)]
  | classLookup className interfaceName found =>
    [("class", .text className.quoted), ("interface", .text interfaceName.quoted), ("found", .flag found)]
  | vectorLookup interfaceName found =>
    [("dispatch_vector", .text Text.someAddress), ("interface", .text interfaceName.quoted),
      ("found", .flag found)]
  | walkBoundExceeded limit => [("dispatch_vector", .text Text.someAddress), ("limit", .number limit)]
  | noDispatchVector => [("instance", .text Text.someAddress)]
  | negativeLength length => [("array", .text Text.someAddress), ("length", .number length.toInt)]
  | noCharacters => [("string", .text Text.someAddress)]
  | negativeCharacterLength length => [("length", .number length.toInt)]
  | violation entry => [("function", .text entry.symbol)]

end Event

/-- A value together with the events emitted on the way to it. -/
structure Logged (α : Type) where
  value : α
  events : List Event := []

/-- The result of an operation that may fail, together with its events. -/
abbrev Outcome (α : Type) :=
  Logged (Except Fault α)

namespace Outcome

/-- Success without an event. -/
def ok {α : Type} (a : α) : Outcome α :=
  ⟨.ok a, []⟩

/-- Failure without an event. -/
def fail {α : Type} (fault : Fault) : Outcome α :=
  ⟨.error fault, []⟩

/-- Success with one event. -/
def okWith {α : Type} (a : α) (event : Event) : Outcome α :=
  ⟨.ok a, [event]⟩

/-- Failure with one event. -/
def failWith {α : Type} (fault : Fault) (event : Event) : Outcome α :=
  ⟨.error fault, [event]⟩

/-- An operation and, if it succeeds, the one after it; the events of both are kept. -/
def andThen {α β : Type} (first : Outcome α) (next : α → Outcome β) : Outcome β :=
  match first.value with
  | .error fault => ⟨.error fault, first.events⟩
  | .ok a => ⟨(next a).value, first.events ++ (next a).events⟩

/-- The result of an operation with a function applied to it. -/
def map {α β : Type} (f : α → β) (outcome : Outcome α) : Outcome β :=
  ⟨outcome.value.map f, outcome.events⟩

end Outcome

end ObjectModel
