import ObjectModel.Proofs.InPlace
import ObjectModel.Session.Command

/-!
# Commands in place

The commands that may fail on the way, carried out on the session itself. Each comes out as the command done all at
once, so what a command has changed when it fails is nothing.
-/

namespace ObjectModel.Session

/-- Works on the heap of a session. -/
def onHeap {α : Type} (work : Work Heap α) : Work Session α :=
  ⟨fun s => ({ s with heap := (work.run s.heap).1 }, (work.run s.heap).2)⟩

/-- Works on the table of a number, on the heap of the session. -/
def onTable {α : Type} (number : Nat) (work : Work (Heap × ClassTable) α) : Work Session α :=
  ⟨fun s =>
    match s.tables[number]? with
    | none => (s, .refuse .badOperand)
    | some table =>
      let left := work.run (s.heap, table)
      (s.setTable number left.1.1 left.1.2, left.2)⟩

/-- Creates an instance in place and adds it to the session. -/
def createInPlace (make : Work Heap Instance) (through : List Nat) : Work Session Answer := do
  let value ← onHeap make
  .change fun s => (s.addInstance s.heap value through, .made (.liveInstance s.instances.length))

/-- Adds a table of the builtin classes in place. -/
def newBuiltinTableInPlace : Work Session Answer := do
  let limit ← .check fun s => .answer s.config.walkBound
  let table ← onHeap (ClassTable.withBuiltinsInPlace limit)
  .change fun s => (s.addTable s.heap table, .made (.tableHandle s.handles.length))

/-- Loads a class in place into the table of a number. -/
def loadInPlace (number : Nat) (definition : ClassDefinition) : Work Session Answer := do
  let limit ← .check fun s => .answer s.config.walkBound
  let id ← onTable number (ClassTable.loadInPlace limit definition)
  return .loaded id

/-- Carries out a command in place. The other commands are refused before they begin or cannot fail. -/
def carryOut : Command → Work Session Answer
  | .install config => do
    .check fun s => if s.slot.installed.isSome then ⟨.error (.alreadyInstalled config), []⟩ else .answer ()
    .emit (.installing config)
    .change fun s => ({ s with slot := ⟨some config⟩ }, .done)
  | .newBuiltinTable => newBuiltinTableInPlace
  | .load handle definition => do
    let number ← .operand fun s => orRefuse .badOperand (s.tableOf? handle)
    loadInPlace number definition
  | .newObject operand => do
    let c ← .operand fun s => s.classOf operand
    createInPlace (.orFault (Instance.newObject c)) [operand.handle]
  | .newArray operand element values => do
    let c ← .operand fun s => s.classOf operand
    createInPlace (Instance.newArrayInPlace c element values) [operand.handle]
  | .newString operand charactersOperand text e => do
    let c ← .operand fun s => s.classOf operand
    let charactersClass ← .operand fun s => s.classOf charactersOperand
    createInPlace (Instance.newStringInPlace c charactersClass text e) [operand.handle, charactersOperand.handle]
  | .newStringIn handle text => do
    let table ← .operand fun s => s.table handle
    let config ← .check fun s => .answer s.config
    createInPlace (Instance.newStringInInPlace table config text) [handle]
  | other => .atOnce fun s => s.attempt other

/-- Putting back the table that is there leaves the session alone. -/
theorem setTable_self {s : Session} {number : Nat} {table : ClassTable} (h : s.tables[number]? = some table) :
    s.setTable number s.heap table = s := by
  obtain ⟨hlt, rfl⟩ := List.getElem?_eq_some_iff.mp h
  rw [setTable, List.set_getElem_self]

/-- What is done at once on the heap is done at once on the session. -/
theorem onHeap_atOnce {α : Type} (op : Heap → Response (Heap × α)) :
    onHeap (.atOnce op) = .atOnce fun s => (op s.heap).map fun made => ({ s with heap := made.1 }, made.2) := by
  refine Work.ext (funext fun s => ?_)
  simp only [onHeap, Work.atOnce, Response.map]
  cases (op s.heap).result with
  | error failure => rfl
  | ok made => rfl

/-- What is done at once on a table is done at once on the session, if there is such a table. -/
theorem onTable_atOnce {α : Type} (number : Nat) (op : Heap × ClassTable → Response ((Heap × ClassTable) × α)) :
    onTable number (.atOnce op) = .atOnce fun s =>
      .given (orRefuse .badOperand s.tables[number]?) fun table =>
        (op (s.heap, table)).map fun made => (s.setTable number made.1.1 made.1.2, made.2) := by
  refine Work.ext (funext fun s => ?_)
  simp only [onTable, Work.atOnce]
  cases htable : s.tables[number]? with
  | none => rfl
  | some table =>
    simp only [orRefuse, Response.given, Response.map]
    cases (op (s.heap, table)).result with
    | error failure =>
      simp only [setTable_self htable]
      rfl
    | ok made => rfl

/-- Creating in place is creating all at once. -/
theorem createInPlace_eq_atOnce (make : Heap → Except Fault (Heap × Instance)) (through : List Nat) :
    createInPlace (.atOnce fun heap => .ofResult (make heap)) through =
      .atOnce fun s => s.created (make s.heap) through := by
  simp only [createInPlace, onHeap_atOnce, Work.atOnce_bind_change, Response.map_ofResult]
  refine congrArg Work.atOnce (funext fun s => ?_)
  rw [created]
  cases make s.heap with
  | error fault => rfl
  | ok made => rfl

/-- Adding a table of the builtin classes in place is adding it all at once. -/
theorem newBuiltinTableInPlace_eq_atOnce : newBuiltinTableInPlace = .atOnce fun s => s.newBuiltinTable := by
  simp only [newBuiltinTableInPlace, ClassTable.withBuiltinsInPlace_eq_atOnce, onHeap_atOnce, Work.atOnce_bind_change,
    Work.look_bind_atOnce, Response.map_ofOutcome]
  rfl

/-- Loading in place is loading all at once. -/
theorem loadInPlace_eq_atOnce (number : Nat) (definition : ClassDefinition) :
    loadInPlace number definition = .atOnce fun s =>
      .given (orRefuse .badOperand s.tables[number]?) fun table =>
        .ofOutcome (table.load s.config.walkBound s.heap definition) fun loaded =>
          (s.setTable number loaded.heap loaded.table, .loaded loaded.newest.info.id) := by
  simp only [loadInPlace, ClassTable.loadInPlace_eq_atOnce, onTable_atOnce, Work.atOnce_bind_pure,
    Work.look_bind_atOnce, Response.map_ofOutcome, Response.map_given]

/-- A command in place is the command done all at once. -/
theorem carryOut_eq_atOnce (c : Command) : carryOut c = .atOnce fun s => s.attempt c := by
  cases c with
  | install config =>
    refine Work.ext (funext fun s => ?_)
    rw [carryOut, Work.run_check_bind]
    simp only [Work.atOnce, attempt, ConfigSlot.install?]
    cases s.slot.installed with
    | none => rfl
    | some config => rfl
  | newBuiltinTable => exact newBuiltinTableInPlace_eq_atOnce
  | load handle definition =>
    simp only [carryOut, loadInPlace_eq_atOnce, Work.operand_bind_atOnce]
    rfl
  | newObject operand =>
    simp only [carryOut, Work.orFault_eq_atOnce, createInPlace_eq_atOnce, Work.operand_bind_atOnce]
    rfl
  | newArray operand element values =>
    simp only [carryOut, Instance.newArrayInPlace_eq_atOnce, createInPlace_eq_atOnce, Work.operand_bind_atOnce]
    rfl
  | newString operand charactersOperand text e =>
    simp only [carryOut, Instance.newStringInPlace_eq_atOnce, createInPlace_eq_atOnce, Work.operand_bind_atOnce]
    rfl
  | newStringIn handle text =>
    simp only [carryOut, Instance.newStringInInPlace_eq_atOnce, createInPlace_eq_atOnce, Work.look_bind_atOnce,
      Work.operand_bind_atOnce]
    rfl
  | replace _ => rfl
  | newTable => rfl
  | cloneTable _ => rfl
  | dropTable _ => rfl
  | linkClass _ _ => rfl
  | makeNodes _ => rfl
  | makeVector _ _ => rfl
  | makeObject _ => rfl
  | makeArray _ _ _ _ => rfl
  | makeString _ _ => rfl
  | dropInstance _ => rfl

end ObjectModel.Session
