import ObjectModel.Event
import ObjectModel.Heap.Walk

/-!
# Checked reads

The reads that native code makes through addresses of unknown origin. A null address, a missing part, a negative
length and an interface list beyond the walk bound are faults; all but the null addresses are reported as
well.
-/

namespace ObjectModel.Access

/-- The dispatch vector of an instance. -/
def dispatchVector : Option ObjectHeader → Outcome VectorId
  | none => .fail .nullInstance
  | some header =>
    match header.vector with
    | none => .failWith .noDispatchVector .noDispatchVector
    | some vector => .ok vector

/-- Whether a dispatch vector lists an interface, visiting at most `limit` nodes. -/
def implementsInterface (heap : Heap) (limit : Nat) (vector : Option VectorId) (name : CString) : Outcome Bool :=
  match vector with
  | none => .fail .nullDispatchVector
  | some vector =>
    match heap.findWithin name limit (heap.vector vector).head with
    | some found => .okWith found (.vectorLookup name found)
    | none => .failWith (.walkBoundExceeded limit) (.walkBoundExceeded limit)

/-- The header of an array that is not null and has no negative length. -/
def checkedArray (heap : Heap) (array : Option ArrayId) : Outcome ArrayHeader :=
  match array with
  | none => .fail .nullArray
  | some array =>
    let header := heap.array array
    if header.length < 0 then .failWith (.negativeLength header.length) (.negativeLength header.length)
    else .ok header

/-- The length of an array. -/
def arrayLength (heap : Heap) (array : Option ArrayId) : Outcome Int32 :=
  (checkedArray heap array).map (·.length)

/-- The memory of the elements of an array: none if its address is null. -/
def arrayData (heap : Heap) (array : Option ArrayId) : Outcome (Option (List UInt8)) :=
  (checkedArray heap array).map ArrayHeader.memory?

/-- The character array of a string. -/
def stringCharacters : Option StringHeader → Outcome ArrayId
  | none => .fail .nullString
  | some header =>
    match header.characters with
    | none => .failWith .noCharacters .noCharacters
    | some characters => .ok characters

end ObjectModel.Access
