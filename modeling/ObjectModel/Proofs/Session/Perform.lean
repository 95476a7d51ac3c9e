import ObjectModel.Session.Run

/-!
# Requests that load

What the requests to load a class and to make a table of the builtin classes come to, by what loading gives: the session
after them and the response.
-/

namespace ObjectModel.Session

open Response

variable {s : Session} {number handle : Nat} {table : ClassTable} {fault : Fault}

/-- A load that fails is a request that fails. -/
theorem perform_load_of_error {definition : ClassDefinition} (hnumber : s.tableOf? handle = some number)
    (htable : s.tables[number]? = some table)
    (hload : (table.load s.config.walkBound s.heap definition).value = .error fault) :
    s.perform (.command (.load handle definition)) =
      (s, ⟨.error (.faulted fault), (table.load s.config.walkBound s.heap definition).events⟩) := by
  simp only [perform, after, attempt, load, hnumber, htable, orRefuse, given, ofOutcome, hload]
  rfl

/-- A load that succeeds puts the table that it gave in the place of the one that was there. -/
theorem perform_load_of_ok {definition : ClassDefinition} {loaded : Loaded} (hnumber : s.tableOf? handle = some number)
    (htable : s.tables[number]? = some table)
    (hload : (table.load s.config.walkBound s.heap definition).value = .ok loaded) :
    s.perform (.command (.load handle definition)) = (s.setTable number loaded.heap loaded.table,
      ⟨.ok (.loaded loaded.newest.info.id), (table.load s.config.walkBound s.heap definition).events⟩) := by
  simp only [perform, after, attempt, load, hnumber, htable, orRefuse, given, ofOutcome, hload]
  rfl

/-- A load through a handle that stands for no table is refused. -/
theorem perform_load_of_none {definition : ClassDefinition} (h : (s.tableOf? handle).bind (s.tables[·]?) = none) :
    s.perform (.command (.load handle definition)) = (s, .refuse .badOperand) := by
  simp only [perform, after, attempt, load]
  cases hnumber : s.tableOf? handle with
  | none => rfl
  | some number =>
    rw [hnumber, Option.bind_some] at h
    simp only [orRefuse, given, h]
    rfl

/-- Builtin classes that cannot be loaded are a request that fails. -/
theorem perform_newBuiltinTable_of_error
    (h : (ClassTable.withBuiltins s.config.walkBound s.heap).value = .error fault) :
    s.perform (.command .newBuiltinTable) =
      (s, ⟨.error (.faulted fault), (ClassTable.withBuiltins s.config.walkBound s.heap).events⟩) := by
  simp only [perform, after, attempt, newBuiltinTable, ofOutcome, h]
  rfl

/-- Builtin classes that were loaded are a table with a handle. -/
theorem perform_newBuiltinTable_of_ok {built : Heap × ClassTable}
    (h : (ClassTable.withBuiltins s.config.walkBound s.heap).value = .ok built) :
    s.perform (.command .newBuiltinTable) = (s.addTable built.1 built.2,
      ⟨.ok (.made (.tableHandle s.handles.length)), (ClassTable.withBuiltins s.config.walkBound s.heap).events⟩) := by
  simp only [perform, after, attempt, newBuiltinTable, ofOutcome, h]
  rfl

end ObjectModel.Session
