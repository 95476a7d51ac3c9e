import ObjectModel.Class.Builtin
import ObjectModel.Encoding.Stored

/-!
# Instances

Objects, arrays and strings are created for a class of the fitting kind. The header of an instance leads to the
dispatch vector of its class. A string has a character array, which is created for an array class with the
element type of the encoding.
-/

namespace ObjectModel

/-- An instance, with the class it was created for. -/
inductive Instance where
  | object (ofClass : LoadedClass) (header : ObjectHeader)
  | array (ofClass : LoadedClass) (header : ArrayId)
  | string (ofClass : LoadedClass) (encoding : Encoding) (header : StringHeader) (characters : ArrayId)
  deriving DecidableEq

/-- Refuses a class whose instances are not of the expected kind. -/
def LoadedClass.expectKind (c : LoadedClass) (expected : TypeKind) : Except Fault Unit :=
  if c.info.kind = expected then .ok () else .error (.wrongKind c.info.name c.info.kind expected)

/-- The largest length that an array can store. -/
def maxLength : Nat :=
  0x7FFFFFFF

/-- Adds an array of the given elements to the heap. -/
def Heap.allocateArray (heap : Heap) (c : LoadedClass) (t : ElementType) (values : List t.Value) :
    Except Fault (Heap × ArrayId) :=
  match c.expectKind (.array t) with
  | .error fault => .error fault
  | .ok _ =>
    if maxLength < values.length then .error (.tooManyElements values.length)
    else .ok (heap.addArray ⟨some c.vector, Int32.ofNat values.length, t, some values⟩)

namespace Instance

/-- An object of a class of plain objects. -/
def newObject (c : LoadedClass) : Except Fault Instance :=
  (c.expectKind .object).map fun _ => .object c ⟨some c.vector⟩

/-- An array of a class with the element type of the given values. -/
def newArray (heap : Heap) (c : LoadedClass) (t : ElementType) (values : List t.Value) :
    Except Fault (Heap × Instance) :=
  (heap.allocateArray c t values).map fun allocated => (allocated.1, .array c allocated.2)

/-- A string of a string class, with its characters in an array of `charsClass`. -/
def newString (heap : Heap) (c charsClass : LoadedClass) (text : String) (e : Encoding) :
    Except Fault (Heap × Instance) :=
  match c.expectKind .string with
  | .error fault => .error fault
  | .ok _ =>
    match e.encode text.toList with
    | .error fault => .error fault
    | .ok elements =>
      (heap.allocateArray charsClass e.elementType elements).map fun allocated =>
        (allocated.1, .string c e ⟨some c.vector, some allocated.2⟩ allocated.2)

/-- The class of a name that an operation needs to be loaded. -/
def requiredClass (table : ClassTable) (name : String) : Except Fault LoadedClass :=
  match table.byString? name with
  | some c => .ok c
  | none => .error (.classNotLoaded name)

/-- A string of the string class of a table, encoded as configured. -/
def newStringIn (heap : Heap) (table : ClassTable) (config : Config) (text : String) :
    Except Fault (Heap × Instance) :=
  match requiredClass table stringClassName with
  | .error fault => .error fault
  | .ok c =>
    match requiredClass table config.encoding.elementType.arrayDescriptor with
    | .error fault => .error fault
    | .ok charsClass => newString heap c charsClass text config.encoding

/-- The class that an instance was created for. -/
def ofClass : Instance → LoadedClass
  | object c _ => c
  | array c _ => c
  | string c _ _ _ => c

/-- The header of an instance, as that of any instance. -/
def header (heap : Heap) : Instance → ObjectHeader
  | object _ header => header
  | array _ id => (heap.array id).object
  | string _ _ header _ => header.object

/-- The text of a string, read in the encoding that it was written with; no other instance has a text. -/
def text? (heap : Heap) : Instance → Option (Outcome String)
  | object .. => none
  | array .. => none
  | string _ e header _ => header.decode? heap e

/-- The instance in descriptions. -/
def describe (heap : Heap) : Instance → String
  | object c _ =>
    Text.describeRecord "Object" [("header", Text.someAddress), ("class", c.info.name.quoted)]
  | array c id =>
    let header := heap.array id
    let elements := (header.data.getD []).map header.element.describeValue
    Text.describeRecord "Array"
      [("header", Text.someAddress), ("class", c.info.name.quoted), ("elements", Text.describeList elements)]
  | string c e _ id =>
    Text.describeRecord "JavaString"
      [("header", Text.someAddress), ("class", c.info.name.quoted), ("encoding", e.describe),
        ("characters", (heap.array id).describe)]

end Instance

end ObjectModel
