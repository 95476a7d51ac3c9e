import ObjectModel.Access

/-!
# Entry points for native code

Native code cannot be handed a fault. Each entry point makes the checked read of its name and, where that fails,
reports a violation under its own symbol and returns a value that stands for failure: null, false, or -1.
-/

namespace ObjectModel.Native

/-- The value of a read, or the sentinel and a report when it fails. -/
def orSentinel {α : Type} (entry : EntryPoint) (sentinel : α) (outcome : Outcome α) : Logged α :=
  match outcome.value with
  | .ok a => ⟨a, outcome.events⟩
  | .error _ => ⟨sentinel, outcome.events ++ [.violation entry]⟩

/-- The dispatch vector of an instance, or null. -/
def dispatchVector (header : Option ObjectHeader) : Logged (Option VectorId) :=
  orSentinel .dispatchVector none ((Access.dispatchVector header).map some)

/-- Whether a dispatch vector lists an interface; a null name fails before any read. -/
def implementsInterface (heap : Heap) (limit : Nat) (vector : Option VectorId) (name : Option CString) :
    Logged Bool :=
  orSentinel .implementsInterface false
    (match name with
    | none => .fail .nullInterfaceName
    | some name => Access.implementsInterface heap limit vector name)

/-- The length of an array, or -1. -/
def arrayLength (heap : Heap) (array : Option ArrayId) : Logged Int32 :=
  orSentinel .arrayLength (-1) (Access.arrayLength heap array)

/-- The memory of the elements of an array, or null. -/
def arrayData (heap : Heap) (array : Option ArrayId) : Logged (Option (List UInt8)) :=
  orSentinel .arrayData none (Access.arrayData heap array)

/-- The character array of a string, or null. -/
def stringCharacters (header : Option StringHeader) : Logged (Option ArrayId) :=
  orSentinel .stringCharacters none ((Access.stringCharacters header).map some)

end ObjectModel.Native
