import ObjectModel.Proofs.Session.Accounts
import ObjectModel.Proofs.Session.Handles
import ObjectModel.Proofs.Session.Loads
import ObjectModel.Proofs.Session.Perform
import ObjectModel.Proofs.Session.Slot

/-!
# The load log replays a table

Every class that is loaded is told in the log, before the table has it and with a count that is taken from the
definition. When all loads of a run go to one table, what the log tells is the table in the end: one event for each
class, in order and with the values that the class has there, whatever was refused and whatever else was requested on
the way.
-/

namespace ObjectModel

/-- Whether an event tells of a class that was loaded, as its level and message say. -/
def Event.tellsLoad (event : Event) : Bool :=
  event.level = .debug && event.message = "loaded class"

/-- The event that tells of a class. -/
def LoadedClass.event (c : LoadedClass) : Event :=
  .loadedClass c.info c.interfaceCount

/-- A log replays a table: it has one event for each class, in order, which carries the position of the class for an
id, and the name, the kind and the number of interfaces that the class has in the table. -/
structure ClassTable.ReplayedBy (heap : Heap) (table : ClassTable) (log : List Event) : Prop where
  length : log.length = table.classes.length
  told : ∀ (i : Nat) c, table.classes[i]? = some c → c.info.id = ⟨i⟩ ∧ (c.interfaces heap).length = c.interfaceCount ∧
    ∃ event, log[i]? = some event ∧ event.level = .debug ∧ event.message = "loaded class" ∧
      event.fields = [("class", .text c.info.name.quoted), ("id", .text ("#" ++ Text.describeNat i)),
        ("kind", .text c.info.kind.describe), ("interface_count", .number c.interfaceCount)]

namespace Session

/-- The classes of the table of a number, none if there is no such table. -/
def classesIn (s : Session) (number : Nat) : List LoadedClass :=
  (s.tables[number]?.map ClassTable.classes).getD []

/-- The events of a run that tell of loaded classes, in order. -/
def loadLog (s : Session) (requests : List Request) : List Event :=
  ((s.run requests).2.flatMap Response.events).filter Event.tellsLoad

/-- A request loads into no table but that of a number. Builtin classes are loaded into a table of their own, which
is there only when all of them are. -/
def LoadsInto (s : Session) (number : Nat) : Request → Prop
  | .command (.load handle _) => ∀ target, s.tableOf? handle = some target → target = number
  | .command .newBuiltinTable =>
    s.tables.length = number ∧ ∃ answer, (s.perform (.command .newBuiltinTable)).2.result = .ok answer
  | _ => True

/-- All loads of a run go to the table of a number. -/
def AllLoadsInto (s : Session) (number : Nat) : List Request → Prop
  | [] => True
  | request :: rest => s.LoadsInto number request ∧ AllLoadsInto (s.perform request).1 number rest

/-- The log of a run replays the table of a number. -/
structure LogReplays (s : Session) (number : Nat) (requests : List Request) : Prop where
  table : ∀ table, (s.run requests).1.tables[number]? = some table →
    table.ReplayedBy (s.run requests).1.heap (s.loadLog requests)
  absent : (s.run requests).1.tables[number]? = none → s.loadLog requests = []
  /-- The classes of the table are what is listed through every handle that stands for it. -/
  handles : ∀ handle, (s.run requests).1.tableOf? handle = some number →
    ∃ table, (s.run requests).1.tables[number]? = some table ∧
      (s.run requests).1.ask (.tableClasses handle) = .answer (.classes (table.classes.map LoadedClass.info))
  /-- A load that fails tells of no class and warns at most once. -/
  failed : ∀ handle definition response failure,
    (.command (.load handle definition), response) ∈ s.transcript requests → response.result = .error failure →
    response.events.filter Event.tellsLoad = [] ∧ response.warnings.length ≤ 1
  /-- No command that succeeds warns, neither a load nor any other. -/
  succeeded : ∀ c response answer, (.command c, response) ∈ s.transcript requests → response.result = .ok answer →
    response.warnings = []

end Session

namespace ClassTable

variable {limit : Nat} {heap : Heap} {table : ClassTable}

/-- A class that is loaded goes behind the others, and the event that tells of it has the values that it has there. -/
theorem events_load_of_ok {definition : ClassDefinition} {loaded : Loaded}
    (h : (table.load limit heap definition).value = .ok loaded) :
    (table.load limit heap definition).events = [loaded.newest.event] ∧
      loaded.table.classes = table.classes ++ [loaded.newest] := by
  have hreports := reports_load limit heap table definition
  rw [Outcome.Reports, h] at hreports
  obtain ⟨checked, hchecked, hnew, rfl⟩ := load_eq_ok_iff.mp h
  -- The event has the count of the names as given, the class that of the names as converted.
  obtain ⟨-, -, -, hinterfaces, -⟩ := ClassDefinition.check_eq_ok_iff.mp hchecked
  have hcount : definition.interfaces.length = checked.interfaces.length := (forall₂_of_mapM_eq_ok hinterfaces).length_eq
  refine ⟨?_, classes_insert hnew⟩
  rw [hreports, Outcome.eventsOf, hcount]
  rfl

/-- Classes that are loaded one after the other go behind the others, and are told in this order. -/
theorem events_loadAll_of_ok {definitions : List ClassDefinition} {result : Heap × ClassTable}
    (h : (table.loadAll limit heap definitions).value = .ok result) :
    ∃ added, (table.loadAll limit heap definitions).events = added.map LoadedClass.event ∧
      result.2.classes = table.classes ++ added := by
  induction definitions generalizing heap table with
  | nil =>
    cases h
    exact ⟨[], rfl, (List.append_nil _).symm⟩
  | cons definition rest ih =>
    obtain ⟨loaded, hfirst, hrest⟩ := Outcome.value_andThen_eq_ok_iff.mp h
    obtain ⟨hevent, hclasses⟩ := events_load_of_ok hfirst
    obtain ⟨added, hevents, hothers⟩ := ih hrest
    refine ⟨loaded.newest :: added, ?_, ?_⟩
    · rw [loadAll, Outcome.andThen, hfirst, hevent]
      exact congrArg ([loaded.newest.event] ++ ·) hevents
    · rw [hothers, hclasses, List.append_assoc, List.singleton_append]

/-- A table that holds a list of definitions is replayed by the events that tell of its classes. -/
theorem Represents.replayedBy {accepted : List ClassDefinition} (h : table.Represents heap accepted) :
    table.ReplayedBy heap (table.classes.map LoadedClass.event) where
  length := List.length_map _
  told i c hc := by
    obtain ⟨definition, -, hrealizes⟩ := h.of_byId? ((table.getElem?_classes i).symm.trans hc)
    refine ⟨hrealizes.id, ?_, c.event, ?_, rfl, rfl, ?_⟩
    · rw [hrealizes.interfaceCount, ← List.length_map CString.bytes, hrealizes.interfaces, List.length_map]
    · rw [List.getElem?_map, hc]
      rfl
    · rw [LoadedClass.event, Event.fields, hrealizes.id]
      rfl

end ClassTable

/-- The event that tells of a class tells of it. -/
theorem LoadedClass.filter_tellsLoad (classes : List LoadedClass) :
    (classes.map LoadedClass.event).filter Event.tellsLoad = classes.map LoadedClass.event := by
  refine List.filter_eq_self.mpr fun event hmem => ?_
  obtain ⟨c, -, rfl⟩ := List.mem_map.mp hmem
  rfl

/-- Events of other levels tell of no class. -/
theorem Event.filter_tellsLoad_eq_nil {events : List Event} (h : ∀ event ∈ events, event.level ≠ .debug) :
    events.filter tellsLoad = [] := by
  refine List.filter_eq_nil_iff.mpr fun event hmem htells => ?_
  rw [tellsLoad, Bool.and_eq_true, decide_eq_true_iff] at htells
  exact h event hmem htells.1

namespace Session

open Response

variable {s next : Session} {c : Command} {number : Nat} {request : Request} {requests : List Request}

/-- A load either adds one class to the table of its handle and tells of it, or it leaves the session as it is, with no
event but a warning. -/
theorem load_cases (s : Session) (handle : Nat) (definition : ClassDefinition) :
    (∃ (target : Nat) (table : ClassTable) (loaded : Loaded), s.tableOf? handle = some target ∧
        s.tables[target]? = some table ∧ loaded.table.classes = table.classes ++ [loaded.newest] ∧
        s.perform (.command (.load handle definition)) = (s.setTable target loaded.heap loaded.table,
          ⟨.ok (.loaded loaded.newest.info.id), [loaded.newest.event]⟩)) ∨
      ∃ failure report, (∀ event ∈ report, event.level = .warn) ∧
        s.perform (.command (.load handle definition)) = (s, ⟨.error failure, Option.toList report⟩) := by
  cases hfound : (s.tableOf? handle).bind (s.tables[·]?) with
  | none => exact .inr ⟨_, none, nofun, perform_load_of_none hfound⟩
  | some table =>
    obtain ⟨target, htarget, htable⟩ := Option.bind_eq_some_iff.mp hfound
    cases hload : (table.load s.config.walkBound s.heap definition).value with
    | ok loaded =>
      obtain ⟨hevent, hclasses⟩ := ClassTable.events_load_of_ok hload
      refine .inl ⟨target, table, loaded, htarget, htable, hclasses, ?_⟩
      rw [perform_load_of_ok htarget htable hload, hevent]
    | error fault =>
      refine .inr ⟨.faulted fault, fault.report?, fault.level_report?, ?_⟩
      have hreports := ClassTable.reports_load s.config.walkBound s.heap table definition
      rw [Outcome.Reports, hload] at hreports
      rw [perform_load_of_error htarget htable hload, hreports]
      rfl

/-- The classes of a table are those of its number. -/
theorem classesIn_eq {table : ClassTable} (h : s.tables[number]? = some table) : s.classesIn number = table.classes := by
  rw [classesIn, h]
  rfl

/-- A table that is added has its classes under the number of the tables before it. -/
theorem classesIn_addTable (s : Session) (heap : Heap) (table : ClassTable) (number : Nat) :
    (s.addTable heap table).classesIn number =
      s.classesIn number ++ if s.tables.length = number then table.classes else [] := by
  rw [classesIn, classesIn, addTable]
  dsimp only
  rcases Nat.lt_trichotomy number s.tables.length with hlt | rfl | hgt
  · rw [List.getElem?_append_left hlt, if_neg (Nat.ne_of_gt hlt), List.append_nil]
  · rw [List.getElem?_concat_length, List.getElem?_eq_none (Nat.le_refl _), if_pos rfl]
    rfl
  · have hbehind : (s.tables ++ [table]).length ≤ number := List.length_append ▸ hgt
    rw [List.getElem?_eq_none hbehind, List.getElem?_eq_none (Nat.le_of_lt hgt), if_neg (Nat.ne_of_lt hgt)]
    rfl

/-- A command that is not reported changes the classes of no table. -/
theorem Effect.classesIn_eq (h : s.Effect c next) (hc : c.isReported = false) (number : Nat) :
    next.classesIn number = s.classesIn number := by
  cases h with
  | newTable =>
    rw [classesIn_addTable]
    exact (congrArg _ (ite_self _)).trans (List.append_nil _)
  | newBuiltinTable => cases hc
  | load => cases hc
  | _ => rfl

/-- A request tells of the classes that the table of a number has more after it, in order. -/
def TellsAdded (s : Session) (number : Nat) (request : Request) : Prop :=
  ∃ added, (s.perform request).1.classesIn number = s.classesIn number ++ added ∧
    (s.perform request).2.events.filter Event.tellsLoad = added.map LoadedClass.event

/-- A request that leaves the table as it is tells of the added classes if it tells of none. -/
theorem tellsAdded_of_same (hclasses : (s.perform request).1.classesIn number = s.classesIn number)
    (hevents : (s.perform request).2.events.filter Event.tellsLoad = []) : s.TellsAdded number request :=
  ⟨[], hclasses.trans (List.append_nil _).symm, hevents⟩

/-- A load into the table of a number tells of the class that it has added, if it has added one. -/
theorem tellsAdded_load {handle : Nat} {definition : ClassDefinition}
    (h : s.LoadsInto number (.command (.load handle definition))) :
    s.TellsAdded number (.command (.load handle definition)) := by
  rcases s.load_cases handle definition with
    ⟨target, table, loaded, htarget, htable, hclasses, hperform⟩ | ⟨failure, report, hreport, hperform⟩
  · cases h target htarget
    have hset : (s.setTable number loaded.heap loaded.table).tables[number]? = some loaded.table :=
      List.getElem?_set_self (List.getElem?_eq_some_iff.mp htable).1
    rw [TellsAdded, hperform]
    refine ⟨[loaded.newest], ?_, rfl⟩
    rw [classesIn_eq hset, classesIn_eq htable, hclasses]
  · apply tellsAdded_of_same
    · rw [hperform]
    · rw [hperform]
      refine Event.filter_tellsLoad_eq_nil fun event hmem => ?_
      rw [hreport event (Option.mem_toList.mp hmem)]
      exact Level.noConfusion

/-- Making the table of a number from the builtin classes tells of them all. -/
theorem tellsAdded_newBuiltinTable (h : s.LoadsInto number (.command .newBuiltinTable)) :
    s.TellsAdded number (.command .newBuiltinTable) := by
  obtain ⟨rfl, answer, hanswer⟩ := h
  cases hbuilt : (ClassTable.withBuiltins s.config.walkBound s.heap).value with
  | error fault =>
    rw [perform_newBuiltinTable_of_error hbuilt] at hanswer
    cases hanswer
  | ok built =>
    obtain ⟨added, hevents, hclasses⟩ := ClassTable.events_loadAll_of_ok hbuilt
    rw [TellsAdded, perform_newBuiltinTable_of_ok hbuilt, classesIn_addTable, if_pos rfl, hclasses]
    exact ⟨added, rfl, (congrArg _ hevents).trans (LoadedClass.filter_tellsLoad added)⟩

/-- A request that loads into no other table tells of the classes that the table has more after it. -/
theorem tellsAdded_perform (h : s.LoadsInto number request) : s.TellsAdded number request := by
  cases request with
  | query q => exact tellsAdded_of_same rfl (Event.filter_tellsLoad_eq_nil (s.quiet_ask q))
  | command c =>
    cases hreported : c.isReported with
    | false =>
      refine tellsAdded_of_same ?_ (Event.filter_tellsLoad_eq_nil (s.quiet_attempt hreported))
      rcases s.perform_cases (.command c) with ⟨_, heq, -, heffect⟩ | ⟨-, hsame⟩
      · cases heq
        exact heffect.classesIn_eq hreported number
      · rw [hsame]
    | true =>
      -- Four commands are reported; the configuration is nothing to the tables.
      cases c with
      | install config =>
        apply tellsAdded_of_same
        · rw [perform_install]
          split <;> rfl
        · rw [perform_install]
          split <;> rfl
      | replace config => exact tellsAdded_of_same rfl rfl
      | newBuiltinTable => exact tellsAdded_newBuiltinTable h
      | load handle definition => exact tellsAdded_load h
      | _ => cases hreported

/-- A run that loads into no other table tells of the classes that the table has more after it, in order. -/
theorem log_run (h : s.AllLoadsInto number requests) :
    ∃ added, (s.run requests).1.classesIn number = s.classesIn number ++ added ∧
      s.loadLog requests = added.map LoadedClass.event := by
  induction requests generalizing s with
  | nil => exact ⟨[], (List.append_nil _).symm, rfl⟩
  | cons request rest ih =>
    obtain ⟨hfirst, hrest⟩ := h
    obtain ⟨first, hclasses, hevents⟩ := tellsAdded_perform hfirst
    obtain ⟨others, hlater, hlog⟩ := ih hrest
    refine ⟨first ++ others, ?_, ?_⟩
    · rw [run, hlater, hclasses, List.append_assoc]
    · rw [loadLog, run, List.flatMap_cons, List.filter_append, hevents, ← loadLog, hlog, List.map_append]

/-- A load that fails tells of no class and warns at most once. -/
theorem events_load_of_failure {handle : Nat} {definition : ClassDefinition} {failure : Failure}
    (h : (s.perform (.command (.load handle definition))).2.result = .error failure) :
    let response := (s.perform (.command (.load handle definition))).2
    response.events.filter Event.tellsLoad = [] ∧ response.warnings.length ≤ 1 := by
  rcases s.load_cases handle definition with ⟨_, _, loaded, -, -, -, hperform⟩ | ⟨_, report, hreport, hperform⟩
  · rw [hperform] at h
    cases h
  · rw [hperform]
    refine ⟨Event.filter_tellsLoad_eq_nil fun event hmem => ?_, ?_⟩
    · rw [hreport event (Option.mem_toList.mp hmem)]
      exact Level.noConfusion
    · exact (List.length_filter_le _ _).trans Option.length_toList_le

/-- The log of a run that loads into one table, which was not there before, replays the table. -/
theorem loadLog_replays (earlier requests : List Request) {number : Nat}
    (hnew : (start.run earlier).1.tables.length ≤ number) (hinto : (start.run earlier).1.AllLoadsInto number requests) :
    (start.run earlier).1.LogReplays number requests := by
  have hrun : ((start.run earlier).1.run requests).1 = (start.run (earlier ++ requests)).1 := by rw [run_append]
  have hlog : (start.run earlier).1.loadLog requests =
      (((start.run earlier).1.run requests).1.classesIn number).map LoadedClass.event := by
    obtain ⟨added, hclasses, hlog⟩ := log_run hinto
    have hempty : (start.run earlier).1.classesIn number = [] := by
      rw [classesIn, List.getElem?_eq_none hnew]
      rfl
    rw [hlog, hclasses, hempty, List.nil_append]
  refine ⟨fun table htable => ?_, fun habsent => ?_, fun handle hhandle => ?_, ?_, ?_⟩
  · obtain ⟨accepted, hrepresents⟩ := represented_run (earlier ++ requests) number table (hrun ▸ htable)
    rw [hlog, classesIn_eq htable, hrun]
    exact hrepresents.replayedBy
  · rw [hlog, classesIn, habsent]
    rfl
  · have hlt : number < ((start.run earlier).1.run requests).1.tables.length := by
      rw [hrun] at hhandle ⊢
      exact housed_run _ handle number hhandle
    have htable := List.getElem?_eq_getElem hlt
    refine ⟨_, htable, ?_⟩
    rw [ask, table_eq_ok_iff.mpr ⟨number, hhandle, htable⟩]
    rfl
  · intro handle definition response failure hmem hfailure
    obtain ⟨t, rfl⟩ := exists_perform_of_mem_transcript hmem
    exact events_load_of_failure hfailure
  · intro c response answer hmem hanswer
    obtain ⟨t, rfl⟩ := exists_perform_of_mem_transcript hmem
    exact ((t.accounts_attempt c).map _).warnings_of_ok hanswer

/-- A class of another table, and then loads through a handle and its clone, one of them refused and one under another
configuration. -/
theorem loadLog_replays_clone :
    let earlier := [.command .newTable, .command (.load 0 (.object "A"))]
    let requests := [.command .newTable, .command (.cloneTable 1), .command (.load 1 (.object "A")),
      .command (.load 2 (.object "A")), .command (.replace ⟨.utf8, 1⟩),
      .command (.load 2 ((ClassDefinition.string "B").implements "I")), .query (.readVector .null)]
    (start.run earlier).1.tables.length ≤ 1 ∧ (start.run earlier).1.AllLoadsInto 1 requests ∧
      (start.run earlier).1.LogReplays 1 requests := by
  intro earlier requests
  have hnew : (start.run earlier).1.tables.length ≤ 1 := Nat.le_refl 1
  have hinto : (start.run earlier).1.AllLoadsInto 1 requests := by
    refine ⟨trivial, trivial, fun _ h => ?_, fun _ h => ?_, trivial, fun _ h => ?_, trivial, trivial⟩ <;>
    exact Option.some.inj (h.symm.trans rfl)
  exact ⟨hnew, hinto, loadLog_replays earlier requests hnew hinto⟩

end Session

end ObjectModel
