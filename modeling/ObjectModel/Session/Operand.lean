import ObjectModel.Session.State

/-!
# Operands

How a client names what a request is about, and what such a name stands for in a session. A name that stands for
nothing is refused, and so is a class operand whose lookup finds no class.
-/

namespace ObjectModel

/-- Why a request is refused before it is made. -/
inductive Refusal where
  | badOperand
  | noSuchClass
  | inUse
  deriving DecidableEq, Repr

/-- A class of the table behind a handle. -/
inductive ClassOperand where
  | byId (handle : Nat) (id : ClassId)
  | byString (handle : Nat) (name : String)
  | byName (handle : Nat) (name : CString)
  deriving DecidableEq

/-- The table handle of a class operand. -/
def ClassOperand.handle : ClassOperand → Nat
  | byId handle _ => handle
  | byString handle _ => handle
  | byName handle _ => handle

/-- The lookup of a class operand in its table. -/
def ClassOperand.lookup? (table : ClassTable) : ClassOperand → Option LoadedClass
  | byId _ id => table.byId? id
  | byString _ name => table.byString? name
  | byName _ name => table.byName? name

/-- A dispatch vector: null, made by hand, of a standalone class, or of a class of a table. -/
inductive VectorOperand where
  | null
  | handmade (i : Nat)
  | standalone (i : Nat)
  | ofClass (operand : ClassOperand)
  deriving DecidableEq

/-- The header of an instance, or one made by hand. -/
inductive ObjectOperand where
  | null
  | ofInstance (i : Nat)
  | object (i : Nat)
  | array (i : Nat)
  | string (i : Nat)
  deriving DecidableEq, Repr

/-- An array header: that of an array, of the characters of a string, or one made by hand. -/
inductive ArrayOperand where
  | null
  | ofInstance (i : Nat)
  | charactersOf (i : Nat)
  | handmade (i : Nat)
  deriving DecidableEq, Repr

/-- A string header: that of a string, or one made by hand. -/
inductive StringOperand where
  | null
  | ofInstance (i : Nat)
  | handmade (i : Nat)
  deriving DecidableEq, Repr

/-- What is there, or a refusal. -/
def orRefuse {α : Type} (refusal : Refusal) : Option α → Except Refusal α
  | some a => .ok a
  | none => .error refusal

namespace Session

/-- The table behind a handle. -/
def table (s : Session) (handle : Nat) : Except Refusal ClassTable :=
  orRefuse .badOperand (s.table? handle)

/-- What the lookup of a class operand finds. -/
def findClass (s : Session) (operand : ClassOperand) : Except Refusal (Option LoadedClass) :=
  (s.table operand.handle).map operand.lookup?

/-- The class that a class operand names. -/
def classOf (s : Session) (operand : ClassOperand) : Except Refusal LoadedClass :=
  (s.findClass operand).bind (orRefuse .noSuchClass)

/-- The address that a vector operand names. -/
def vector (s : Session) : VectorOperand → Except Refusal (Option VectorId)
  | .null => .ok none
  | .handmade i => orRefuse .badOperand (s.vectors[i]?.map some)
  | .standalone i => orRefuse .badOperand (s.standalone[i]?.map (some ·.vector))
  | .ofClass operand => (s.classOf operand).map (some ·.vector)

/-- The address that a vector operand names, which must not be null. -/
def vectorNotNull (s : Session) (operand : VectorOperand) : Except Refusal VectorId :=
  (s.vector operand).bind (orRefuse .badOperand)

/-- An instance that was not given up. -/
def liveInstance (s : Session) (i : Nat) : Except Refusal Instance :=
  orRefuse .badOperand (s.instance? i)

/-- The address of an array instance. -/
def arrayInstance (s : Session) (i : Nat) : Except Refusal ArrayId :=
  match s.instance? i with
  | some (.array _ id) => .ok id
  | _ => .error .badOperand

/-- The encoding, header and characters of a string instance. -/
def stringInstance (s : Session) (i : Nat) : Except Refusal (Encoding × StringHeader × ArrayId) :=
  match s.instance? i with
  | some (.string _ e header id) => .ok (e, header, id)
  | _ => .error .badOperand

/-- The header that an object operand names. -/
def object (s : Session) : ObjectOperand → Except Refusal (Option ObjectHeader)
  | .null => .ok none
  | .ofInstance i => (s.liveInstance i).map fun value => some (value.header s.heap)
  | .object i => orRefuse .badOperand (s.objects[i]?.map some)
  | .array i => orRefuse .badOperand (s.arrays[i]?.map fun id => some (s.heap.array id).object)
  | .string i => orRefuse .badOperand (s.strings[i]?.map (some ·.object))

/-- The address that an array operand names. -/
def array (s : Session) : ArrayOperand → Except Refusal (Option ArrayId)
  | .null => .ok none
  | .ofInstance i => (s.arrayInstance i).map some
  | .charactersOf i => (s.stringInstance i).map (some ·.2.2)
  | .handmade i => orRefuse .badOperand (s.arrays[i]?.map some)

/-- The header that a string operand names. -/
def string (s : Session) : StringOperand → Except Refusal (Option StringHeader)
  | .null => .ok none
  | .ofInstance i => (s.stringInstance i).map (some ·.2.1)
  | .handmade i => orRefuse .badOperand (s.strings[i]?.map some)

end Session

/-- A dispatch vector as the client knows it. -/
inductive VectorName where
  | null
  | handmade (i : Nat)
  | standalone (i : Nat)
  | ofClass (handle : Nat) (id : ClassId)
  deriving DecidableEq, Repr

/-- An array header as the client knows it. -/
inductive ArrayName where
  | null
  | handmade (i : Nat)
  | ofInstance (i : Nat)
  | charactersOf (i : Nat)
  deriving DecidableEq, Repr

namespace Session

/-- The first live table handle through which a dispatch vector is known, and its class there. -/
def knownThrough? (s : Session) (vector : VectorId) : Option VectorName :=
  (List.range s.handles.length).findSome? fun handle =>
    ((s.table? handle).bind (·.byVector? vector)).map fun c => .ofClass handle c.info.id

/-- The name of a dispatch vector: the first made by hand, of a standalone class, or of a class. -/
def vectorName (s : Session) : Option VectorId → VectorName
  | none => .null
  | some vector =>
    let handmade := (s.vectors.findIdx? (· = vector)).map VectorName.handmade
    let standalone := (s.standalone.findIdx? (·.vector = vector)).map VectorName.standalone
    ((handmade.or standalone).or (s.knownThrough? vector)).getD .null

/-- Whether an instance slot holds the array with the given header. -/
def holdsArray (id : ArrayId) : Option OwnedInstance → Bool
  | some ⟨.array _ own, _⟩ => own = id
  | _ => false

/-- Whether an instance slot holds a string with the given characters. -/
def holdsCharacters (id : ArrayId) : Option OwnedInstance → Bool
  | some ⟨.string _ _ _ own, _⟩ => own = id
  | _ => false

/-- The name of an array header: the first made by hand, of an array, or of the characters of a string. -/
def arrayName (s : Session) : Option ArrayId → ArrayName
  | none => .null
  | some id =>
    let handmade := (s.arrays.findIdx? (· = id)).map ArrayName.handmade
    let arrays := (s.instances.findIdx? (holdsArray id)).map ArrayName.ofInstance
    let strings := (s.instances.findIdx? (holdsCharacters id)).map ArrayName.charactersOf
    ((handmade.or arrays).or strings).getD .null

end Session

end ObjectModel
