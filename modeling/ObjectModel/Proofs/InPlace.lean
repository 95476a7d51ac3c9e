import ObjectModel.Proofs.Class.Table
import ObjectModel.Proofs.Work

/-!
# Loading and creating in place

Loading, building the builtin table and creating instances, one step after the other. They come out as if each was done
all at once: every check comes ahead of the first change, and a table of builtin classes that is not finished gives back
all that was linked for it.
-/

namespace ObjectModel

/-- Takes the last linked class off the heap, with its dispatch vector and its nodes. -/
def Heap.unlink (heap : Heap) (count : Nat) : Heap :=
  { heap with nodes := heap.nodes.take (heap.nodes.size - count), vectors := heap.vectors.pop }

/-- Unlinking a class takes off what linking it has added. -/
theorem Heap.unlink_link (heap : Heap) (names : List CString) (metadata : Metadata) :
    (heap.link names metadata).1.unlink names.length = heap := by
  obtain ⟨nodes, vectors, arrays⟩ := heap
  simp [link, unlink, addVector, addNodes]

namespace ClassTable

/-- Links a checked definition in place and adds it to the table, under its dispatch vector first and then under its
name. -/
def insertInPlace (definition : CheckedDefinition) (listed : Nat) : Work (Heap × ClassTable) ClassId := do
  let id ← .check fun (_, table) => .answer ⟨table.size⟩
  let info : TypeInfo := ⟨definition.name, id, definition.kind⟩
  let vector ← .change fun (heap, table) =>
    let linked := heap.link definition.interfaces (.ofClass info)
    ((linked.1, table), linked.2)
  .emit (.loadedClass info listed)
  .change fun (heap, table) => ((heap, { table with idOfVector := table.idOfVector.insert vector id }), ())
  let newest : LoadedClass := ⟨info, definition.interfaces.length, vector⟩
  .change fun (heap, table) => ((heap, { table with byName := table.byName.insert definition.name newest }), ())
  return id

/-- Loads a class in place. -/
def loadInPlace (limit : Nat) (definition : ClassDefinition) : Work (Heap × ClassTable) ClassId := do
  let checked ← .check fun _ => .ofOutcome (definition.check limit) id
  .check fun (_, table) =>
    match table.byName? checked.name with
    | some _ => .ofOutcome (.fail (.duplicateClass checked.name)) id
    | none => .answer ()
  insertInPlace checked definition.interfaces.length

/-- Loads classes in place one after the other, up to the first that fails. -/
def loadAllInPlace (limit : Nat) : List ClassDefinition → Work (Heap × ClassTable) Unit
  | [] => return ()
  | definition :: rest => do
    let _ ← loadInPlace limit definition
    loadAllInPlace limit rest

/-- Gives back what was linked for the classes of a table, the last one first. -/
def release (heap : Heap) (table : ClassTable) : Heap :=
  table.classes.foldr (fun c heap => heap.unlink c.interfaceCount) heap

/-- Builds a table of the builtin classes in place; a table that is not finished is given up. -/
def withBuiltinsInPlace (limit : Nat) : Work Heap ClassTable :=
  ⟨fun heap =>
    match (loadAllInPlace limit builtinDefinitions).run (heap, .empty) with
    | ((later, table), ⟨.ok _, events⟩) => (later, ⟨.ok table, events⟩)
    | ((later, table), ⟨.error failure, events⟩) => (table.release later, ⟨.error failure, events⟩)⟩

variable {limit : Nat} {heap : Heap} {table : ClassTable} {definition : ClassDefinition} {checked : CheckedDefinition}

/-- Inserting in place leaves the heap and the table of an insertion. -/
theorem run_insertInPlace (listed : Nat) :
    (insertInPlace checked listed).run (heap, table) =
      let loaded := table.insert heap checked
      ((loaded.heap, loaded.table), ⟨.ok loaded.newest.info.id, [.loadedClass loaded.newest.info listed]⟩) := rfl

/-- Loading in place is loading all at once. -/
theorem loadInPlace_eq_atOnce (limit : Nat) (definition : ClassDefinition) :
    loadInPlace limit definition = .atOnce fun state =>
      .ofOutcome (state.2.load limit state.1 definition) fun loaded =>
        ((loaded.heap, loaded.table), loaded.newest.info.id) := by
  refine Work.ext (funext fun (heap, table) => ?_)
  rw [loadInPlace, Work.run_check_bind]
  simp only [Work.atOnce, load, Outcome.andThen, Response.ofOutcome]
  cases (definition.check limit).value with
  | error fault => rfl
  | ok checked =>
    dsimp only [Except.mapError, Except.map, id_eq]
    rw [Work.run_check_bind, run_insertInPlace]
    dsimp only
    cases table.byName? checked.name with
    | some c => rfl
    | none => rfl

/-- A load in place that fails leaves the heap and the table alone. -/
theorem run_loadInPlace_of_error {fault : Fault} (h : (table.load limit heap definition).value = .error fault) :
    (loadInPlace limit definition).run (heap, table) =
      ((heap, table), ⟨.error (.faulted fault), (table.load limit heap definition).events⟩) := by
  rw [loadInPlace_eq_atOnce]
  exact Work.run_atOnce_of_error (Response.result_ofOutcome_of_error h _)

/-- A load in place that succeeds leaves the loaded heap and table. -/
theorem run_loadInPlace_of_ok {loaded : Loaded} (h : (table.load limit heap definition).value = .ok loaded) :
    (loadInPlace limit definition).run (heap, table) =
      ((loaded.heap, loaded.table), ⟨.ok loaded.newest.info.id, (table.load limit heap definition).events⟩) := by
  rw [loadInPlace_eq_atOnce]
  exact Work.run_atOnce_of_ok (Response.result_ofOutcome_eq_ok_iff.mpr ⟨_, h, rfl⟩)

/-- A class that is released with its table leaves what releasing the table without it leaves. -/
theorem release_insert (hnew : table.byName? checked.name = none) :
    (table.insert heap checked).table.release (table.insert heap checked).heap = table.release heap := by
  rw [release, classes_insert hnew, List.foldr_append]
  exact congrArg (fun freed => table.classes.foldr _ freed) (heap.unlink_link _ _)

/-- Loading classes in place leaves the heap and the table of loading them all at once, if that succeeds. -/
theorem run_loadAllInPlace_of_ok {definitions : List ClassDefinition} {result : Heap × ClassTable}
    (h : (table.loadAll limit heap definitions).value = .ok result) :
    (loadAllInPlace limit definitions).run (heap, table) =
      (result, ⟨.ok (), (table.loadAll limit heap definitions).events⟩) := by
  induction definitions generalizing heap table with
  | nil =>
    cases h
    rfl
  | cons definition rest ih =>
    obtain ⟨loaded, hfirst, hrest⟩ := Outcome.value_andThen_eq_ok_iff.mp h
    rw [loadAllInPlace, Work.run_bind_of_ok (run_loadInPlace_of_ok hfirst), ih hrest]
    simp only [loadAll, Outcome.andThen, hfirst]

/-- Loading classes in place fails where loading them all at once does. What is left behind then is the heap as it was
and what the classes loaded before the failure have added to it. -/
theorem run_loadAllInPlace_of_error {definitions : List ClassDefinition} {fault : Fault}
    (h : (table.loadAll limit heap definitions).value = .error fault) :
    ∃ left, (loadAllInPlace limit definitions).run (heap, table) =
        (left, ⟨.error (.faulted fault), (table.loadAll limit heap definitions).events⟩) ∧
      left.2.release left.1 = table.release heap := by
  induction definitions generalizing heap table with
  | nil => cases h
  | cons definition rest ih =>
    rw [loadAllInPlace]
    rw [loadAll, Outcome.andThen] at h ⊢
    cases hfirst : (table.load limit heap definition).value with
    | error first =>
      rw [hfirst] at h
      cases h
      exact ⟨(heap, table), Work.run_bind_of_error (run_loadInPlace_of_error hfirst) _, rfl⟩
    | ok loaded =>
      rw [hfirst] at h
      obtain ⟨checked, -, hnew, rfl⟩ := load_eq_ok_iff.mp hfirst
      obtain ⟨left, hrun, hrelease⟩ := ih h
      refine ⟨left, ?_, hrelease.trans (release_insert hnew)⟩
      rw [Work.run_bind_of_ok (run_loadInPlace_of_ok hfirst), hrun]

/-- Building a table of the builtin classes in place is building it all at once: a table that is not finished leaves
nothing on the heap. -/
theorem withBuiltinsInPlace_eq_atOnce (limit : Nat) :
    withBuiltinsInPlace limit = .atOnce fun heap => .ofOutcome (withBuiltins limit heap) id := by
  refine Work.ext (funext fun heap => ?_)
  cases hvalue : (withBuiltins limit heap).value with
  | error fault =>
    obtain ⟨left, hrun, hrelease⟩ := run_loadAllInPlace_of_error hvalue
    have hheap : left.2.release left.1 = heap := hrelease
    have hatOnce : (Work.atOnce fun heap => .ofOutcome (withBuiltins limit heap) id).run heap =
        (heap, ⟨.error (.faulted fault), (withBuiltins limit heap).events⟩) :=
      Work.run_atOnce_of_error (Response.result_ofOutcome_of_error hvalue _)
    simp only [withBuiltinsInPlace, hrun, hheap, hatOnce]
    rfl
  | ok built =>
    have hatOnce : (Work.atOnce fun heap => .ofOutcome (withBuiltins limit heap) id).run heap =
        (built.1, ⟨.ok built.2, (withBuiltins limit heap).events⟩) :=
      Work.run_atOnce_of_ok (Response.result_ofOutcome_eq_ok_iff.mpr ⟨_, hvalue, rfl⟩)
    simp only [withBuiltinsInPlace, run_loadAllInPlace_of_ok hvalue, hatOnce]
    rfl

end ClassTable
namespace Instance

/-- Allocates an array in place. -/
def allocateInPlace (c : LoadedClass) (t : ElementType) (values : List t.Value) : Work Heap ArrayId := do
  .orFault (c.expectKind (.array t))
  if maxLength < values.length then .orFault (.error (.tooManyElements values.length))
  .change fun heap => heap.addArray ⟨some c.vector, Int32.ofNat values.length, t, some values⟩

/-- Creates an array in place. -/
def newArrayInPlace (c : LoadedClass) (t : ElementType) (values : List t.Value) : Work Heap Instance := do
  let id ← allocateInPlace c t values
  return .array c id

/-- Creates a string in place. -/
def newStringInPlace (c charsClass : LoadedClass) (text : String) (e : Encoding) : Work Heap Instance := do
  .orFault (c.expectKind .string)
  let elements ← .orFault (e.encode text.toList)
  let id ← allocateInPlace charsClass e.elementType elements
  return .string c e ⟨some c.vector, some id⟩ id

/-- Creates a string of the string class of a table in place. -/
def newStringInInPlace (table : ClassTable) (config : Config) (text : String) : Work Heap Instance := do
  let c ← .orFault (requiredClass table stringClassName)
  let charsClass ← .orFault (requiredClass table config.encoding.elementType.arrayDescriptor)
  newStringInPlace c charsClass text config.encoding

/-- Allocating in place is allocating all at once. -/
theorem allocateInPlace_eq_atOnce (c : LoadedClass) (t : ElementType) (values : List t.Value) :
    allocateInPlace c t values = .atOnce fun heap => .ofResult (heap.allocateArray c t values) := by
  refine Work.ext (funext fun heap => ?_)
  simp only [allocateInPlace, Work.orFault, Work.run_check_bind, Work.atOnce, Heap.allocateArray]
  cases c.expectKind (.array t) with
  | error fault => rfl
  | ok u =>
    by_cases hlong : maxLength < values.length
    · simp only [if_pos hlong]
      rfl
    · simp only [if_neg hlong]
      rfl

/-- Creating an array in place is creating it all at once. -/
theorem newArrayInPlace_eq_atOnce (c : LoadedClass) (t : ElementType) (values : List t.Value) :
    newArrayInPlace c t values = .atOnce fun heap => .ofResult (newArray heap c t values) := by
  simp only [newArrayInPlace, allocateInPlace_eq_atOnce, Work.atOnce_bind_pure, Response.map_ofResult]
  rfl

/-- Creating a string in place is creating it all at once. -/
theorem newStringInPlace_eq_atOnce (c charsClass : LoadedClass) (text : String) (e : Encoding) :
    newStringInPlace c charsClass text e = .atOnce fun heap => .ofResult (newString heap c charsClass text e) := by
  simp only [newStringInPlace, allocateInPlace_eq_atOnce, Work.atOnce_bind_pure, Response.map_ofResult,
    Work.orFault_bind_atOnce]
  congr 2
  funext heap
  rw [newString]
  cases c.expectKind .string with
  | error fault => rfl
  | ok u =>
    cases e.encode text.toList with
    | error fault => rfl
    | ok elements => rfl

/-- Creating a string of the string class of a table in place is creating it all at once. -/
theorem newStringInInPlace_eq_atOnce (table : ClassTable) (config : Config) (text : String) :
    newStringInInPlace table config text = .atOnce fun heap => .ofResult (newStringIn heap table config text) := by
  simp only [newStringInInPlace, newStringInPlace_eq_atOnce, Work.orFault_bind_atOnce]
  congr 2
  funext heap
  rw [newStringIn]
  cases requiredClass table stringClassName with
  | error fault => rfl
  | ok c =>
    cases requiredClass table config.encoding.elementType.arrayDescriptor with
    | error fault => rfl
    | ok charsClass => rfl

end Instance

end ObjectModel
