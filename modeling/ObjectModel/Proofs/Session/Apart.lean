import ObjectModel.Proofs.Class.Alike
import ObjectModel.Proofs.Session.Handles
import ObjectModel.Proofs.Session.Headers
import ObjectModel.Proofs.Session.Perform
import ObjectModel.Proofs.Session.Slot

/-!
# Tables do not interfere

To a table it makes no difference what else a run does. Every load into it, through whatever handle, is answered as in the
run that only configures, makes the table and loads into it, and in the end it looks like the table there. All handles
that stand for a table see the same classes, and no table knows a dispatch vector of another one.
-/

namespace ObjectModel

/-- An answer without the number of what was made. -/
def Answer.unnumbered : Answer → Answer
  | .made _ => .done
  | other => other

namespace Session

/-- A request as it is where the table of a number is the only one, if it matters to that table: to configure, to make the
table, or to load into it through any handle. -/
def alone? (s : Session) (number : Nat) : Request → Option Request
  | .command (.install config) => some (.command (.install config))
  | .command (.replace config) => some (.command (.replace config))
  | .command .newTable => if s.tables.length = number then some (.command .newTable) else none
  | .command .newBuiltinTable => if s.tables.length = number then some (.command .newBuiltinTable) else none
  | .command (.load handle definition) =>
    if s.tableOf? handle = some number then some (.command (.load 0 definition)) else none
  | _ => none

/-- What of a run matters to the table of a number: the requests as they are where that table is the only one, each with
the response that it had in the run. -/
def concerning (s : Session) (number : Nat) : List Request → List (Request × Response Answer)
  | [] => []
  | request :: rest =>
    let first := s.perform request
    ((s.alone? number request).map (·, first.2)).toList ++ concerning first.1 number rest

/-- In the one session the table of a number holds the definitions that the only table of the other one holds, which is
behind the first handle there; or there is no such table in either. The configuration is the same. -/
structure Mirrors (number : Nat) (s t : Session) : Prop where
  slot : t.slot = s.slot
  absent : s.tables[number]? = none → t.tables = [] ∧ t.handles = []
  present : ∀ table, s.tables[number]? = some table → ∃ alone accepted, t.tables = [alone] ∧ t.tableOf? 0 = some 0 ∧
    table.Represents s.heap accepted ∧ alone.Represents t.heap accepted

/-- The rest of a run makes no difference to the table of a number. -/
structure Undisturbed (requests : List Request) (number : Nat) : Prop where
  responses : (start.run ((start.concerning number requests).map Prod.fst)).2.map (Response.map Answer.unnumbered) =
    (start.concerning number requests).map fun entry => entry.2.map Answer.unnumbered
  contents : ∀ table, (start.run requests).1.tables[number]? = some table → ∃ alone,
    (start.run ((start.concerning number requests).map Prod.fst)).1.table 0 = .ok alone ∧
      table.LooksLike (start.run requests).1.heap
        (start.run ((start.concerning number requests).map Prod.fst)).1.heap alone

/-- Each table has its own handles, all of which see the same, and its own dispatch vectors. -/
structure Separated (s : Session) : Prop where
  /-- A table that is made is behind a handle of its own. -/
  made : ∀ c handle, c = .newTable ∨ c = .newBuiltinTable →
    (s.perform (.command c)).2.result = .ok (.made (.tableHandle handle)) →
      (s.perform (.command c)).1.tableOf? handle = some s.tables.length ∧
        ∀ other, s.tableOf? other ≠ some s.tables.length
  /-- A clone and its original see one table, whatever is requested later, each until it is given up. -/
  clones : ∀ handle clone,
    (s.perform (.command (.cloneTable handle))).2.result = .ok (.made (.tableHandle clone)) → ∀ rest,
      let later := ((s.perform (.command (.cloneTable handle))).1.run rest).1
      ∃ table, ∀ h, h = handle ∨ h = clone →
        (later.table h = .ok table ∨ later.tableOf? h = none ∧ .command (.dropTable h) ∈ rest)
  /-- No table has a class for the dispatch vector of a class of another one. -/
  vectors : ∀ (number other : Nat) table otherTable, number ≠ other → s.tables[number]? = some table →
    s.tables[other]? = some otherTable → ∀ c ∈ otherTable.classes, table.byVector? c.vector = none

/-- The tables of a run have nothing to do with each other, and all handles of a table are as good as each other. -/
structure TablesApart (requests : List Request) : Prop where
  undisturbed : ∀ number, Undisturbed requests number
  separated : (start.run requests).1.Separated

open Response

variable {s t next : Session} {c : Command} {number handle : Nat} {table alone : ClassTable}

namespace Mirrors

/-- What leaves the configuration and the table as they are needs nothing done in the other session. -/
theorem keep (h : Mirrors number s t) (hslot : next.slot = s.slot) (hgrows : s.heap.Grows next.heap)
    (htables : next.tables[number]? = s.tables[number]?) : Mirrors number next t where
  slot := h.slot.trans hslot.symm
  absent hnone := h.absent (htables ▸ hnone)
  present table htable := by
    obtain ⟨alone, accepted, htables, hhandle, hrepresents, halone⟩ := h.present table (htables ▸ htable)
    exact ⟨alone, accepted, htables, hhandle, hrepresents.mono hgrows, halone⟩

/-- The same configuration in both. -/
theorem configure (h : Mirrors number s t) (slot : ConfigSlot) : Mirrors number { s with slot } { t with slot } :=
  ⟨rfl, h.absent, h.present⟩

/-- Tables that hold the same definitions, added to both. -/
theorem addTable (h : Mirrors number s t) (hnumber : s.tables.length = number) {heap otherHeap : Heap}
    {other : ClassTable} {accepted : List ClassDefinition} (hrepresents : table.Represents heap accepted)
    (hother : other.Represents otherHeap accepted) :
    Mirrors number (s.addTable heap table) (t.addTable otherHeap other) := by
  obtain ⟨htables, hhandles⟩ := h.absent (List.getElem?_eq_none (Nat.le_of_eq hnumber))
  have hadded : (s.addTable heap table).tables[number]? = some table := by
    rw [Session.addTable, ← hnumber, List.getElem?_concat_length]
  refine ⟨h.slot, fun hnone => ?_, fun found hfound => ?_⟩
  · cases hadded.symm.trans hnone
  · cases hadded.symm.trans hfound
    refine ⟨other, accepted, ?_, ?_, hrepresents, hother⟩
    · rw [Session.addTable, htables, List.nil_append]
    · rw [tableOf?, Session.addTable, hhandles, htables]
      rfl

/-- What is loaded into both tables. -/
theorem setTable (h : Mirrors number s t) (htable : s.tables[number]? = some table) (hhandle : t.tableOf? 0 = some 0)
    (halone : t.tables = [alone]) {heap otherHeap : Heap} {grown other : ClassTable} {accepted : List ClassDefinition}
    (hrepresents : grown.Represents heap accepted) (hother : other.Represents otherHeap accepted) :
    Mirrors number (s.setTable number heap grown) (t.setTable 0 otherHeap other) := by
  have hset : (s.setTable number heap grown).tables[number]? = some grown :=
    List.getElem?_set_self (List.getElem?_eq_some_iff.mp htable).1
  refine ⟨h.slot, fun hnone => ?_, fun found hfound => ?_⟩
  · cases hset.symm.trans hnone
  · cases hset.symm.trans hfound
    refine ⟨other, accepted, ?_, hhandle, hrepresents, hother⟩
    rw [Session.setTable, halone]
    rfl

/-- Making a table of the builtin classes comes to the same in both, and the tables hold the same. -/
theorem newBuiltinTable (h : Mirrors number s t) (hnumber : s.tables.length = number) :
    Mirrors number (s.perform (.command .newBuiltinTable)).1 (t.perform (.command .newBuiltinTable)).1 ∧
      (t.perform (.command .newBuiltinTable)).2.map Answer.unnumbered =
        (s.perform (.command .newBuiltinTable)).2.map Answer.unnumbered := by
  have hbound : t.config.walkBound = s.config.walkBound := by rw [config, config, h.slot]
  obtain ⟨hevents, ⟨fault, hbuilt, hother⟩ | ⟨built, other, hbuilt, hother, hrepresents, halone⟩⟩ :=
    (ClassTable.Represents.empty s.heap).loadAll_alike (.empty t.heap) s.config.walkBound builtinDefinitions
  · rw [perform_newBuiltinTable_of_error hbuilt, perform_newBuiltinTable_of_error (hbound ▸ hother), hbound]
    exact ⟨h, congrArg (Response.mk _) hevents.symm⟩
  · rw [perform_newBuiltinTable_of_ok hbuilt, perform_newBuiltinTable_of_ok (hbound ▸ hother), hbound]
    exact ⟨h.addTable hnumber hrepresents halone, congrArg (Response.mk _) hevents.symm⟩

/-- Loading into the table comes to the same in both, and the tables then hold the same. -/
theorem load (h : Mirrors number s t) (hnumber : s.tableOf? handle = some number) (definition : ClassDefinition) :
    Mirrors number (s.perform (.command (.load handle definition))).1 (t.perform (.command (.load 0 definition))).1 ∧
      (t.perform (.command (.load 0 definition))).2 = (s.perform (.command (.load handle definition))).2 := by
  have hbound : t.config.walkBound = s.config.walkBound := by rw [config, config, h.slot]
  cases htable : s.tables[number]? with
  | none =>
    have hempty : (t.tableOf? 0).bind (t.tables[·]?) = none := by
      rw [tableOf?, (h.absent htable).2]
      rfl
    rw [perform_load_of_none (by rw [hnumber, Option.bind_some, htable]), perform_load_of_none hempty]
    exact ⟨h, rfl⟩
  | some table =>
    obtain ⟨alone, accepted, htables, hhandle, hrepresents, halone⟩ := h.present table htable
    have hzero : t.tables[0]? = some alone := by
      rw [htables]
      rfl
    obtain ⟨hevents, ⟨fault, hload, hother⟩ | ⟨loaded, other, hload, hother, hinfo, hloaded, hotherLoaded⟩⟩ :=
      hrepresents.load_alike halone s.config.walkBound definition
    · rw [perform_load_of_error hnumber htable hload, perform_load_of_error hhandle hzero (hbound ▸ hother), hbound,
        hevents]
      exact ⟨h, rfl⟩
    · rw [perform_load_of_ok hnumber htable hload, perform_load_of_ok hhandle hzero (hbound ▸ hother), hbound, hevents,
        hinfo]
      exact ⟨h.setTable htable hhandle htables hloaded hotherLoaded, rfl⟩

/-- A configuration comes to the same in both. -/
theorem install (h : Mirrors number s t) (config : Config) :
    Mirrors number (s.perform (.command (.install config))).1 (t.perform (.command (.install config))).1 ∧
      (t.perform (.command (.install config))).2 = (s.perform (.command (.install config))).2 := by
  rw [perform_install, perform_install, h.slot]
  split
  · exact ⟨h.configure _, rfl⟩
  · exact ⟨h, rfl⟩

/-- What does not matter to the table leaves it as it is. -/
theorem perform_of_alone?_eq_none (h : Mirrors number s t) {request : Request} (hnone : s.alone? number request = none) :
    Mirrors number (s.perform request).1 t := by
  rcases s.perform_cases request with ⟨c, rfl, -, heffect⟩ | ⟨-, hsame⟩
  · have hconfigures : configures (.command c) = false := by
      cases c with
      | install => cases hnone
      | replace => cases hnone
      | _ => rfl
    refine h.keep (heffect.slot_eq hconfigures) heffect.grows_heap ?_
    generalize (s.perform (.command c)).1 = next at heffect
    have hadded : ∀ table, s.tables.length ≠ number → (s.tables ++ [table])[number]? = s.tables[number]? := by
      intro table hne
      rw [List.getElem?_append]
      split
      · rfl
      · next hge =>
        rw [List.getElem?_eq_none (Nat.not_lt.mp hge), List.getElem?_eq_none]
        rw [List.length_singleton]
        omega
    cases heffect with
    | newTable => exact hadded _ fun heq => nomatch (if_pos heq).symm.trans hnone
    | newBuiltinTable => exact hadded _ fun heq => nomatch (if_pos heq).symm.trans hnone
    | load htarget =>
      refine List.getElem?_set_ne fun heq => ?_
      cases heq
      cases (if_pos htarget).symm.trans hnone
    | _ => rfl
  · exact hsame.symm ▸ h

/-- What matters to the table comes to the same in both. -/
theorem perform (h : Mirrors number s t) {request own : Request} (hown : s.alone? number request = some own) :
    Mirrors number (s.perform request).1 (t.perform own).1 ∧
      (t.perform own).2.map Answer.unnumbered = (s.perform request).2.map Answer.unnumbered := by
  rcases request with q | c
  · cases hown
  · cases c with
    | install config =>
      cases hown
      exact (h.install config).imp_right (congrArg _)
    | replace config =>
      cases hown
      exact ⟨h.configure ⟨some config⟩, by rw [perform_replace, perform_replace, h.slot]⟩
    | newTable =>
      rw [alone?, Option.ite_none_right_eq_some] at hown
      obtain ⟨hnumber, hsame⟩ := hown
      cases hsame
      exact ⟨h.addTable hnumber (.empty s.heap) (.empty t.heap), rfl⟩
    | newBuiltinTable =>
      rw [alone?, Option.ite_none_right_eq_some] at hown
      obtain ⟨hnumber, hsame⟩ := hown
      cases hsame
      exact h.newBuiltinTable hnumber
    | load handle definition =>
      rw [alone?, Option.ite_none_right_eq_some] at hown
      obtain ⟨hnumber, hsame⟩ := hown
      cases hsame
      exact (h.load hnumber definition).imp_right (congrArg _)
    | _ => cases hown

/-- The whole run, and what of it matters to the table, end with tables that hold the same; all that matters is answered
alike. -/
theorem run (h : Mirrors number s t) (requests : List Request) :
    Mirrors number (s.run requests).1 (t.run ((s.concerning number requests).map Prod.fst)).1 ∧
      (t.run ((s.concerning number requests).map Prod.fst)).2.map (Response.map Answer.unnumbered) =
        (s.concerning number requests).map fun entry => entry.2.map Answer.unnumbered := by
  induction requests generalizing s t with
  | nil => exact ⟨h, rfl⟩
  | cons request rest ih =>
    rw [concerning, Session.run]
    cases hown : s.alone? number request with
    | none => exact ih (h.perform_of_alone?_eq_none hown)
    | some own =>
      obtain ⟨hnext, hresponse⟩ := h.perform hown
      obtain ⟨hrest, hresponses⟩ := ih hnext
      refine ⟨hrest, ?_⟩
      simp only [Option.map_some, Option.toList_some, List.singleton_append, List.map_cons, Session.run, hresponse,
        hresponses]

end Mirrors

/-- Before anything is made there is no table in either session. -/
theorem mirrors_start (number : Nat) : Mirrors number start start where
  slot := rfl
  absent _ := ⟨rfl, rfl⟩
  present _ h := nomatch h

/-- The rest of a run makes no difference to a table. -/
theorem undisturbed (requests : List Request) (number : Nat) : Undisturbed requests number where
  responses := ((mirrors_start number).run requests).2
  contents table htable := by
    obtain ⟨alone, accepted, htables, hhandle, hrepresents, halone⟩ :=
      ((mirrors_start number).run requests).1.present table htable
    refine ⟨alone, table_eq_ok_iff.mpr ⟨0, hhandle, ?_⟩, hrepresents.looksLike halone⟩
    rw [htables]
    rfl

/-- Two tables are loaded into by turns. To the second it matters that the interface bound was lowered, and what was loaded
through its clone; a class of the same name in the first does not. -/
example :
    let a := ClassDefinition.object "A"
    (start.concerning 1 [.command .newTable, .command .newTable, .command (.cloneTable 1), .command (.load 0 a),
      .command (.replace ⟨.utf16, 0⟩), .command (.load 2 a)]).map Prod.fst =
        [.command .newTable, .command (.replace ⟨.utf16, 0⟩), .command (.load 0 a)] := by
  cbv

/-- A request that makes a table adds it, with a handle. -/
theorem perform_making (hc : c = .newTable ∨ c = .newBuiltinTable) {a : Answer}
    (h : (s.perform (.command c)).2.result = .ok a) :
    ∃ heap table, (s.perform (.command c)).1 = s.addTable heap table ∧ a = .made (.tableHandle s.handles.length) := by
  rcases hc with rfl | rfl
  · cases h
    exact ⟨s.heap, .empty, rfl, rfl⟩
  · cases hbuilt : (ClassTable.withBuiltins s.config.walkBound s.heap).value with
    | error fault =>
      rw [perform_newBuiltinTable_of_error hbuilt] at h
      cases h
    | ok built =>
      rw [perform_newBuiltinTable_of_ok hbuilt] at h ⊢
      cases h
      exact ⟨built.1, built.2, rfl, rfl⟩

/-- A request that clones a handle adds one for the same table. -/
theorem perform_cloning {a : Answer} (h : (s.perform (.command (.cloneTable handle))).2.result = .ok a) :
    ∃ number, s.tableOf? handle = some number ∧ a = .made (.tableHandle s.handles.length) ∧
      (s.perform (.command (.cloneTable handle))).1 = { s with handles := s.handles ++ [some number] } := by
  obtain ⟨⟨next, answered⟩, hresult, rfl⟩ := map_eq_ok_iff.mp h
  obtain ⟨number, hnumber, hmade⟩ := result_given_eq_ok_iff.mp hresult
  rw [perform_of_ok hresult]
  cases hmade
  exact ⟨number, orRefuse_eq_ok_iff.mp hnumber, rfl, rfl⟩

/-- A clone and its original see one table after any further requests, each until it is given up. -/
theorem Housed.cloning (h : s.Housed) {clone : Nat}
    (hclone : (s.perform (.command (.cloneTable handle))).2.result = .ok (.made (.tableHandle clone)))
    (rest : List Request) :
    let later := ((s.perform (.command (.cloneTable handle))).1.run rest).1
    ∃ table, ∀ other, other = handle ∨ other = clone →
      (later.table other = .ok table ∨ later.tableOf? other = none ∧ .command (.dropTable other) ∈ rest) := by
  obtain ⟨number, hnumber, hmade, hnext⟩ := perform_cloning hclone
  cases hmade
  have hhandle : handle ≠ s.handles.length := by
    rintro rfl
    cases (tableOf?_eq_none (Nat.le_refl _)).symm.trans hnumber
  have hboth : ∀ other, other = handle ∨ other = s.handles.length →
      (s.perform (.command (.cloneTable handle))).1.tableOf? other = some number := by
    rintro other (rfl | rfl)
    · rw [hnext, tableOf?_concat (s := s) rfl, if_neg hhandle, hnumber]
    · rw [hnext, tableOf?_concat (s := s) rfl, if_pos rfl]
  obtain ⟨table, htable⟩ : ∃ table, (s.perform (.command (.cloneTable handle))).1.tables[number]? = some table := by
    rw [hnext]
    exact ⟨_, List.getElem?_eq_getElem (h handle number hnumber)⟩
  obtain ⟨grown, hgrown, -⟩ := (grows_run (s.perform (.command (.cloneTable handle))).1 rest).tables number table htable
  refine ⟨grown, fun other hother => (tableOf?_run (hboth other hother) rest).imp_left fun hsame => ?_⟩
  exact table_eq_ok_iff.mpr ⟨number, hsame, hgrown⟩

/-- After a run each table has its own handles and its own dispatch vectors. -/
theorem separated_run (requests : List Request) : (start.run requests).1.Separated where
  made c handle hc hresult := by
    obtain ⟨heap, table, hnext, hmade⟩ := perform_making hc hresult
    cases hmade
    refine ⟨hnext ▸ tableOf?_addTable _ heap table, fun other hother => ?_⟩
    exact Nat.lt_irrefl _ (housed_run requests other _ hother)
  clones handle clone hclone rest := (housed_run requests).cloning hclone rest
  vectors number other table otherTable hne htable hother c hc := by
    have hhas : (start.run requests).1.Has ⟨other, c⟩ := ⟨otherTable, hother, hc⟩
    exact (leadsTo_of_has hhas).others number table hne htable

/-- The tables of a run do not interfere, and clones share. -/
theorem tables_apart (requests : List Request) : TablesApart requests where
  undisturbed := undisturbed requests
  separated := separated_run requests

end Session

end ObjectModel
