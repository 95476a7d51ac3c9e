import ObjectModel.Proofs.Class.Names
import ObjectModel.Proofs.Session.Decision
import ObjectModel.Proofs.Session.Loads
import ObjectModel.Proofs.Session.Table

/-!
# Names over a run

Whatever a client does, the classes of its tables have the names that were given when they were loaded, byte for byte. So
the checks that compare names as they are given and the lookups that compare C strings agree on which are the same. A
load that is refused for a NUL in a name gives that name back unaltered.
-/

namespace ObjectModel.Session

/-- The C string is where a class that was loaded, or an interface of it, has the name that was given for it. -/
def Stores (s : Session) (history : List (Session × Command)) (name : String) (stored : CString) : Prop :=
  ∃ number i definition bound table c, (loaded number history)[i]? = some (definition, bound) ∧
    s.tables[number]? = some table ∧ table.byId? ⟨i⟩ = some c ∧
    ∃ k : Nat, definition.names[k]? = some name ∧ (c.names s.heap)[k]? = some stored

/-- Names are converted without loss, those of the classes that the history says were loaded and those that a load is
refused for. -/
structure KeepsNames (s : Session) (history : List (Session × Command)) : Prop where
  /-- In any role a name that is not empty and has no NUL becomes the C string with its bytes. -/
  converted : ∀ role name, name ≠ "" → '\x00' ∉ name.toList →
    ∃ stored, checkedName role name = .ok stored ∧ stored.IsOf name
  /-- A load that is granted gives the id of a class that has its names as they were given. -/
  granted : ∀ handle definition id,
    (s.perform (.command (.load handle definition))).2.result = .ok (.loaded id) →
    ∃ c, (s.perform (.command (.load handle definition))).1.classOf (.byId handle id) = .ok c ∧
      c.KeepsNames (s.perform (.command (.load handle definition))).1.heap definition
  /-- So do all classes that were loaded so far, whatever was requested since. -/
  loaded : ∀ number (i : Nat) definition bound, (loaded number history)[i]? = some (definition, bound) →
    ∃ table c, s.tables[number]? = some table ∧ table.byId? ⟨i⟩ = some c ∧ c.KeepsNames s.heap definition ∧
      ∀ handle, s.tableOf? handle = some number → s.classOf (.byId handle ⟨i⟩) = .ok c
  /-- Names that were given are the same exactly when they are stored as the same. -/
  same_iff : ∀ name stored other otherStored, s.Stores history name stored → s.Stores history other otherStored →
    (name = other ↔ stored = otherStored)
  /-- The bytes of a name with a NUL, which are refused, are read as the name. -/
  reread : ∀ name refused, CString.ofBytes (Utf8.bytesOf name) = .error refused →
    String.ofList (Utf8.decodeLossy refused.bytes) = name ∧ Text.FirstNul name refused.position
  /-- A load fails for a NUL exactly when the name that it is refused for has one; the fault has this name and the position
  of its first NUL. -/
  refused_iff : ∀ handle table definition role name position, s.table handle = .ok table →
    ((s.perform (.command (.load handle definition))).2.result = .error (.faulted (.nulInName role name position)) ↔
      definition.RefusedFor s.config.walkBound role name ∧ Text.FirstNul name position)
  /-- Then the whole name is quoted and the position is told. -/
  told : ∀ handle table definition role name, s.table handle = .ok table →
    definition.RefusedFor s.config.walkBound role name → '\x00' ∈ name.toList →
    ∃ position, Text.FirstNul name position ∧
      (s.perform (.command (.load handle definition))).2.FailsWith .invalidArgument
        [role.noun ++ " name " ++ Text.quoted name ++ " contains a NUL byte at " ++ Text.describeNat position]

variable {s : Session} {history : List (Session × Command)} {handle : Nat} {table : ClassTable}
  {definition : ClassDefinition} {role : NameRole} {name : String} {stored : CString} {position : Nat}

/-- A request to load a definition fails with the fault of the table. -/
theorem perform_load_result_eq_error_iff {fault : Fault} (htable : s.table handle = .ok table) :
    (s.perform (.command (.load handle definition))).2.result = .error (.faulted fault) ↔
      (table.load s.config.walkBound s.heap definition).value = .error fault := by
  obtain ⟨number, hnumber, hfound⟩ := table_eq_ok_iff.mp htable
  cases hload : (table.load s.config.walkBound s.heap definition).value with
  | error other =>
    rw [perform_load_of_error hnumber hfound hload]
    simp
  | ok loaded =>
    rw [perform_load_of_ok hnumber hfound hload]
    simp

/-- A load that is granted gives the id of a class with the names of its definition. -/
theorem exists_keepsNames_of_granted {id : ClassId} (h : s.Represented)
    (hgranted : (s.perform (.command (.load handle definition))).2.result = .ok (.loaded id)) :
    ∃ c, (s.perform (.command (.load handle definition))).1.classOf (.byId handle id) = .ok c ∧
      c.KeepsNames (s.perform (.command (.load handle definition))).1.heap definition := by
  obtain ⟨⟨next, answer⟩, hresult, heq⟩ := map_eq_ok_iff.mp hgranted
  cases heq
  rw [perform_of_ok hresult]
  obtain ⟨number, table, loaded, hnumber, htable, hload, rfl, hanswer⟩ := load_result_eq_ok_iff.mp hresult
  cases hanswer
  obtain ⟨checked, hchecked, hnew, rfl⟩ := ClassTable.load_eq_ok_iff.mp hload
  obtain ⟨accepted, hrepresents⟩ := h number table htable
  have hset : (s.tables.set number (table.insert s.heap checked).table)[number]? = _ :=
    List.getElem?_set_self (List.getElem?_eq_some_iff.mp htable).1
  have hfound : (table.insert s.heap checked).table.byId? ⟨table.size⟩ = some (table.insert s.heap checked).newest :=
    (ClassTable.byId?_insert hnew _).trans (if_pos rfl)
  refine ⟨_, classOf_eq_ok_iff.mpr ⟨number, ?_⟩, (hrepresents.realizes_newest hchecked).keepsNames⟩
  exact origin?_eq_some_iff.mpr ⟨hnumber, _, hset, hfound⟩

/-- The class at the position of a definition that was loaded has its names. -/
theorem Records.exists_keepsNames {number i bound : Nat} {log : List (ClassDefinition × Nat)}
    (h : s.Records number log) (hi : log[i]? = some (definition, bound)) :
    ∃ table c, s.tables[number]? = some table ∧ table.byId? ⟨i⟩ = some c ∧ c.KeepsNames s.heap definition := by
  have hlt : number < s.tables.length := by
    apply Nat.lt_of_not_le
    intro hle
    rw [h.absent hle, List.getElem?_nil] at hi
    cases hi
  have htable : s.tables[number]? = some s.tables[number] := List.getElem?_eq_getElem hlt
  have hdefinition : (log.map Prod.fst)[i]? = some definition := by
    rw [List.getElem?_map, hi, Option.map_some]
  obtain ⟨c, hc, hrealizes⟩ := (h.represents _ htable).exists_byId? hdefinition
  exact ⟨_, c, htable, hc, hrealizes.keepsNames⟩

/-- What a name is stored as after a run has its bytes. -/
theorem Stores.isOf {requests : List Request}
    (h : (start.run requests).1.Stores (start.history requests) name stored) : stored.IsOf name := by
  obtain ⟨number, i, definition, bound, table, c, hi, htable, hc, k, hname, hstored⟩ := h
  obtain ⟨other, d, hother, hd, hkeeps⟩ := (records_run requests number).exists_keepsNames hi
  cases htable.symm.trans hother
  cases hc.symm.trans hd
  obtain ⟨hk, rfl⟩ := List.getElem?_eq_some_iff.mp hname
  obtain ⟨hk', rfl⟩ := List.getElem?_eq_some_iff.mp hstored
  exact hkeeps.get hk' hk

/-- After every run the names of classes are those that were given, and refusals give names back as they are. -/
theorem names_keptWhole (requests : List Request) :
    (start.run requests).1.KeepsNames (start.history requests) where
  converted role _ hne hfree := exists_checkedName_isOf role hne hfree
  granted _ _ _ hgranted := exists_keepsNames_of_granted (represented_run requests) hgranted
  loaded number i definition bound hi := by
    obtain ⟨table, c, htable, hc, hkeeps⟩ := (records_run requests number).exists_keepsNames hi
    refine ⟨table, c, htable, hc, hkeeps, fun handle hhandle => ?_⟩
    exact classOf_eq_ok_iff.mpr ⟨number, origin?_eq_some_iff.mpr ⟨hhandle, table, htable, hc⟩⟩
  same_iff _ _ _ _ hstores hother := hstores.isOf.eq_iff hother.isOf
  reread _ _ hrefused := CString.reread_of_refused hrefused
  refused_iff _ _ _ _ _ _ htable := by
    rw [perform_load_result_eq_error_iff htable, ClassTable.load_eq_nulInName_iff]
  told handle table definition role name htable hrefused hnul := by
    have hfirst : Text.FirstNul name _ := Text.firstNul_iff_idxOf.mpr ⟨hnul, rfl⟩
    exact ⟨_, hfirst, failsWith_of_load htable (ClassTable.load_eq_nulInName_iff.mpr ⟨hrefused, hfirst⟩)⟩

/-- The name of an interface with a NUL behind a character of two bytes is given back whole, and the position counts
bytes. -/
example :
    ((start.run [.command .newTable]).1.perform
      (.command (.load 0 ((ClassDefinition.object "A").implements "é\x00b")))).2.FailsWith .invalidArgument
        ["interface name \"é\\0b\" contains a NUL byte at 2"] :=
  ⟨.nulInName .ofInterface "é\x00b" 2, by cbv, rfl, by decide +kernel⟩

end ObjectModel.Session
