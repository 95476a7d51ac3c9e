import ObjectModel.Proofs.Session.Growth

/-!
# What was loaded, and under which bound

From the start of a session on, each table holds the definitions that the history says were loaded into it: one by one
through its handles, or all builtin ones when the table was made of them. Each of them has passed its checks under the
walk bound that was in force then, whatever the bound is now.
-/

namespace ObjectModel.Session

/-- The definitions that a command which succeeds loads into the table of a number, with the walk bound in force. -/
def loads (number : Nat) (s : Session) : Command → List (ClassDefinition × Nat)
  | .load handle definition => if s.tableOf? handle = some number then [(definition, s.config.walkBound)] else []
  | .newBuiltinTable => if s.tables.length = number then builtinDefinitions.map (·, s.config.walkBound) else []
  | _ => []

/-- The definitions that were loaded into the table of a number, in order, with the walk bounds then in force. -/
def loaded (number : Nat) (history : List (Session × Command)) : List (ClassDefinition × Nat) :=
  history.flatMap fun entry => loads number entry.1 entry.2

/-- The table of a number holds the loaded definitions, none if there is no such table yet, and each of them passes its
checks under the bound that it was loaded under. -/
structure Records (s : Session) (number : Nat) (log : List (ClassDefinition × Nat)) : Prop where
  represents : ∀ table, s.tables[number]? = some table → table.Represents s.heap (log.map Prod.fst)
  absent : s.tables.length ≤ number → log = []
  checked : ∀ entry ∈ log, ∃ checked, (entry.1.check entry.2).value = .ok checked

/-- Every table holds some list of definitions. -/
def Represented (s : Session) : Prop :=
  ∀ (number : Nat) table, s.tables[number]? = some table → ∃ accepted, table.Represents s.heap accepted

variable {s next : Session} {c : Command} {number : Nat} {log entries : List (ClassDefinition × Nat)}

/-- Before anything is made there is no table and nothing was loaded. -/
theorem records_start (number : Nat) : start.Records number [] where
  represents _ htable := nomatch htable
  absent _ := rfl
  checked _ hentry := nomatch hentry

/-- What was loaded stays recorded over a command that loads nothing and leaves the tables as they are. -/
theorem Records.mono (h : s.Records number log) (hgrows : s.heap.Grows next.heap) (htables : next.tables = s.tables)
    (hloads : loads number s c = []) : next.Records number (log ++ loads number s c) := by
  rw [hloads, List.append_nil]
  exact ⟨fun table htable => (h.represents table (htables ▸ htable)).mono hgrows, fun hle => h.absent (htables ▸ hle),
    h.checked⟩

/-- A table that is added holds what it was made of. -/
theorem Records.addTable (h : s.Records number log) {heap : Heap} {table : ClassTable} (hgrows : s.heap.Grows heap)
    (hrepresents : table.Represents heap (entries.map Prod.fst))
    (hchecked : ∀ entry ∈ entries, ∃ checked, (entry.1.check entry.2).value = .ok checked) :
    (s.addTable heap table).Records number (log ++ if s.tables.length = number then entries else []) := by
  -- Nothing was loaded under a number that no table had, so the new table holds no more than it was made of.
  by_cases hnumber : s.tables.length = number
  · rw [if_pos hnumber, h.absent (Nat.le_of_eq hnumber), List.nil_append]
    refine ⟨fun other hother => ?_, fun hle => ?_, hchecked⟩
    · rw [Session.addTable, ← hnumber, List.getElem?_concat_length] at hother
      cases hother
      exact hrepresents
    · rw [Session.addTable, List.length_append, hnumber] at hle
      exact absurd hle (Nat.not_succ_le_self number)
  · rw [if_neg hnumber, List.append_nil]
    refine ⟨fun other hother => ?_, fun hle => ?_, h.checked⟩
    · rcases getElem?_concat_cases hother with hold | ⟨hlast, -⟩
      · exact (h.represents other hold).mono hgrows
      · exact absurd hlast.symm hnumber
    · rw [Session.addTable, List.length_append] at hle
      exact h.absent (Nat.le_of_add_right_le hle)

/-- A load into a table puts the definition behind those that were loaded before. -/
theorem Records.load (h : s.Records number log) {handle target : Nat} {definition : ClassDefinition}
    {table : ClassTable} {loaded : Loaded} (htarget : s.tableOf? handle = some target) (htable : s.tables[target]? = some table)
    (hload : (table.load s.config.walkBound s.heap definition).value = .ok loaded) :
    (s.setTable target loaded.heap loaded.table).Records number (log ++ loads number s (.load handle definition)) := by
  obtain ⟨checked, hchecked, hnew, rfl⟩ := ClassTable.load_eq_ok_iff.mp hload
  rw [loads, htarget]
  by_cases hsame : target = number
  · cases hsame
    rw [if_pos rfl]
    refine ⟨fun other hother => ?_, fun hle => ?_, fun entry hentry => ?_⟩
    · rw [setTable, List.getElem?_set_self (List.getElem?_eq_some_iff.mp htable).1] at hother
      cases hother
      rw [List.map_append]
      exact (h.represents table htable).insert hchecked hnew
    · rw [setTable, List.length_set] at hle
      exact absurd (List.getElem?_eq_some_iff.mp htable).1 (Nat.not_lt.mpr hle)
    · rcases List.mem_append.mp hentry with hold | hlast
      · exact h.checked entry hold
      · cases List.mem_singleton.mp hlast
        exact ⟨checked, hchecked⟩
  · have hne : ¬some target = some number := fun heq => hsame (Option.some.inj heq)
    rw [if_neg hne, List.append_nil]
    refine ⟨fun other hother => ?_, fun hle => ?_, h.checked⟩
    · rw [setTable, List.getElem?_set_ne hsame] at hother
      exact (h.represents other hother).mono (ClassTable.grows_load hload)
    · rw [setTable, List.length_set] at hle
      exact h.absent hle

/-- Nothing is loaded where an instance is created. -/
theorem loads_of_creation? {creation : Creation} (h : s.creation? c = some creation) : loads number s c = [] := by
  cases c with
  | load => cases h
  | newBuiltinTable => cases h
  | _ => rfl

/-- A command adds to what was loaded the definitions that it loads. -/
theorem Records.step (h : s.Records number log) (heffect : s.Effect c next) :
    next.Records number (log ++ loads number s c) := by
  have hgrows := heffect.grows_heap
  cases heffect with
  | newTable =>
    have hempty : ClassTable.empty.Represents s.heap (([] : List (ClassDefinition × Nat)).map Prod.fst) := .empty s.heap
    have hadded := h.addTable hgrows hempty fun _ hentry => nomatch hentry
    rwa [ite_self] at hadded
  | newBuiltinTable hbuilt =>
    obtain ⟨hrepresents, hchecked⟩ := (ClassTable.Represents.empty s.heap).loadAll hbuilt
    apply h.addTable hgrows
    · rw [List.map_map]
      exact (List.map_id builtinDefinitions).symm ▸ hrepresents
    · intro entry hentry
      obtain ⟨definition, hmem, rfl⟩ := List.mem_map.mp hentry
      exact hchecked definition hmem
  | load htarget htable hload => exact h.load htarget htable hload
  | create hcreation => exact h.mono hgrows rfl (loads_of_creation? hcreation)
  | _ => exact h.mono hgrows rfl rfl

/-- After every run the tables hold what was loaded into them. -/
theorem records_run (requests : List Request) (number : Nat) :
    (start.run requests).1.Records number (loaded number (start.history requests)) := by
  apply history_induction (P := fun s log => s.Records number (loaded number log)) _ [] (records_start number)
  intro s c next log heffect h
  rw [loaded, List.flatMap_append, List.flatMap_singleton]
  exact h.step heffect

/-- A class of a table is what was loaded at its position, under a bound that its definition has passed. -/
theorem Records.of_mem (h : s.Records number log) {table : ClassTable} {loaded : LoadedClass}
    (htable : s.tables[number]? = some table) (hmem : loaded ∈ table.classes) :
    ∃ definition bound, log[loaded.info.id.index]? = some (definition, bound) ∧
      loaded.Realizes s.heap loaded.info.id.index definition ∧ ∃ checked, (definition.check bound).value = .ok checked := by
  obtain ⟨-, definition, hdefinition, hrealizes⟩ := (h.represents table htable).of_mem hmem
  rw [List.getElem?_map, Option.map_eq_some_iff] at hdefinition
  obtain ⟨⟨_, bound⟩, hentry, rfl⟩ := hdefinition
  exact ⟨_, bound, hentry, hrealizes, h.checked _ (List.mem_of_getElem? hentry)⟩

/-- Every table holds some list of definitions after every run. -/
theorem represented_run (requests : List Request) : (start.run requests).1.Represented :=
  fun number table htable => ⟨_, (records_run requests number).represents table htable⟩

/-- A class of a table realizes some definition. -/
theorem Represented.realizes (h : s.Represented) {origin : TableClass} (hhas : s.Has origin) :
    ∃ definition, origin.loaded.Realizes s.heap origin.loaded.info.id.index definition := by
  obtain ⟨table, htable, hmem⟩ := hhas
  obtain ⟨accepted, hrepresents⟩ := h _ table htable
  obtain ⟨-, definition, -, hrealizes⟩ := hrepresents.of_mem hmem
  exact ⟨definition, hrealizes⟩

end ObjectModel.Session
