import ObjectModel.Class.Definition
import ObjectModel.Class.Table
import ObjectModel.Event
import ObjectModel.Heap.Link
import Std.Data.HashSet

/-!
# Loading a class

A definition is checked in a fixed order: the class name, the number of interfaces, repeated interfaces, the
interface names, and last whether a class of the name is loaded. The first check that fails decides the fault. A
definition that passes is linked on the heap and becomes the next class of the table.
-/

namespace ObjectModel

/-- The first entry that equals an earlier one or one already seen. -/
def firstRepeatFrom (seen : Std.HashSet String) : List String → Option String
  | [] => none
  | name :: rest => if seen.contains name then some name else firstRepeatFrom (seen.insert name) rest

/-- The first entry that equals an earlier one. -/
def firstRepeat? (names : List String) : Option String :=
  firstRepeatFrom ∅ names

/-- Nothing is found exactly when the entries differ and none of them was seen. -/
theorem firstRepeatFrom_eq_none_iff {seen : Std.HashSet String} {names : List String} :
    firstRepeatFrom seen names = none ↔ names.Nodup ∧ ∀ name ∈ names, name ∉ seen := by
  induction names generalizing seen with
  | nil => simp [firstRepeatFrom]
  | cons name rest ih =>
    rw [firstRepeatFrom]
    by_cases h : name ∈ seen
    · rw [if_pos (Std.HashSet.contains_iff_mem.mpr h)]
      simp [h]
    · rw [if_neg (fun hc => h (Std.HashSet.contains_iff_mem.mp hc)), ih]
      simp only [Std.HashSet.mem_insert, not_or, List.nodup_cons, List.mem_cons, forall_eq_or_imp]
      constructor
      · rintro ⟨hnodup, hrest⟩
        refine ⟨⟨fun hmem => ?_, hnodup⟩, h, fun other hother => (hrest other hother).2⟩
        exact (hrest name hmem).1 (beq_self_eq_true name)
      · rintro ⟨⟨hname, hnodup⟩, _, hrest⟩
        refine ⟨hnodup, fun other hother => ⟨fun heq => ?_, hrest other hother⟩⟩
        exact hname (eq_of_beq heq ▸ hother)

/-- No entry is found exactly when all entries differ. -/
theorem firstRepeat?_eq_none_iff {names : List String} : firstRepeat? names = none ↔ names.Nodup := by
  rw [firstRepeat?, firstRepeatFrom_eq_none_iff]
  exact and_iff_left fun _ _ => Std.HashSet.not_mem_empty

/-- The C string of a name, which is neither empty nor has a NUL. What is told about a name with a NUL is read from the
bytes that were refused. -/
def checkedName (role : NameRole) (name : String) : Except Fault CString :=
  if name = "" then .error (.emptyName role)
  else
    match CString.ofBytes (Utf8.bytesOf name) with
    | .ok checked => .ok checked
    | .error refused => .error (.nulInName role (String.ofList (Utf8.decodeLossy refused.bytes)) refused.position)

/-- A definition whose names are C strings and whose interfaces differ and are not too many. -/
structure CheckedDefinition where
  name : CString
  kind : TypeKind
  interfaces : List CString

namespace ClassDefinition

/-- The checks of a definition by itself, when at most `limit` interfaces are allowed. -/
def check (limit : Nat) (definition : ClassDefinition) : Outcome CheckedDefinition :=
  match checkedName .ofClass definition.name with
  | .error fault => .fail fault
  | .ok name =>
    let count := definition.interfaces.length
    if limit < count then
      .failWith (.tooManyInterfaces name count limit) (.tooManyInterfaces name count limit)
    else
      match firstRepeat? definition.interfaces with
      | some repeated => .failWith (.repeatedInterface name repeated) (.repeatedInterface name repeated)
      | none =>
        match definition.interfaces.mapM (checkedName .ofInterface) with
        | .error fault => .fail fault
        | .ok interfaces => .ok ⟨name, definition.kind, interfaces⟩

end ClassDefinition

/-- The heap and the table after loading, and what was loaded. -/
structure Loaded where
  heap : Heap
  table : ClassTable
  newest : LoadedClass

namespace ClassTable

/-- Links a checked definition on the heap and adds it to the table. -/
def insert (heap : Heap) (table : ClassTable) (definition : CheckedDefinition) : Loaded :=
  let id : ClassId := ⟨table.size⟩
  let info : TypeInfo := ⟨definition.name, id, definition.kind⟩
  let linked := heap.link definition.interfaces (.ofClass info)
  let newest : LoadedClass := ⟨info, definition.interfaces.length, linked.2⟩
  ⟨linked.1, ⟨table.byName.insert definition.name newest, table.idOfVector.insert linked.2 id⟩, newest⟩

/-- Loads a class, when at most `limit` interfaces are allowed. -/
def load (limit : Nat) (heap : Heap) (table : ClassTable) (definition : ClassDefinition) : Outcome Loaded :=
  (definition.check limit).andThen fun checked =>
    match table.byName? checked.name with
    | some _ => .fail (.duplicateClass checked.name)
    | none =>
      let loaded := table.insert heap checked
      .okWith loaded (.loadedClass loaded.newest.info definition.interfaces.length)

/-- Loads classes one after the other, up to the first that fails. -/
def loadAll (limit : Nat) (heap : Heap) (table : ClassTable) : List ClassDefinition → Outcome (Heap × ClassTable)
  | [] => .ok (heap, table)
  | definition :: rest =>
    (table.load limit heap definition).andThen fun loaded => loadAll limit loaded.heap loaded.table rest

end ClassTable

end ObjectModel
