import ObjectModel.Config.Options
import ObjectModel.Instance
import ObjectModel.Native
import ObjectModel.Proofs.Encoding.Stored

/-!
# What operations report

An operation that fails because metadata is malformed reports that, with the values of its fault, and reports no
other fault. What it reports when it succeeds follows from its result. A null header, a header without its dispatch
vector and one without its characters are no matter of malformed metadata, and come apart from this. Nor is an
instance that cannot be created.
-/

namespace ObjectModel

/-- The report on a fault, if it is one of malformed metadata. -/
def Fault.report? : Fault → Option Event
  | .tooManyInterfaces className count limit => some (.tooManyInterfaces className count limit)
  | .repeatedInterface className interfaceName => some (.repeatedInterface className interfaceName)
  | .walkBoundExceeded limit => some (.walkBoundExceeded limit)
  | .negativeLength length => some (.negativeLength length)
  | .negativeCharacterLength length => some (.negativeCharacterLength length)
  | _ => none

/-- A fault of any other kind is not reported. -/
theorem Fault.report?_of_kind_ne {fault : Fault} (h : fault.kind ≠ .malformedMetadata) : fault.report? = none := by
  cases fault <;> first | rfl | exact absurd rfl h

/-- The report on a fault is a warning. -/
theorem Fault.level_report? (fault : Fault) : ∀ event ∈ fault.report?, event.level = .warn := by
  intro event h
  cases fault <;> cases h <;> rfl

/-- A fault is a matter of report exactly when it is one of malformed metadata. -/
theorem Fault.exists_report?_iff {fault : Fault} :
    (∃ event, fault.report? = some event) ↔ fault.kind = .malformedMetadata := by
  constructor
  · rintro ⟨event, hevent⟩
    by_contra hkind
    exact absurd ((report?_of_kind_ne hkind).symm.trans hevent) nofun
  · intro hkind
    cases fault with
    | wrongKind className actual expected => cases expected <;> cases hkind
    | _ => first | exact ⟨_, rfl⟩ | cases hkind

namespace Outcome

variable {α β : Type} {said : α → List Event} {outcome : Outcome α}

/-- What is said about a value, or the report on a fault. -/
def eventsOf (said : α → List Event) : Except Fault α → List Event
  | .ok a => said a
  | .error fault => fault.report?.toList

/-- The events of an operation are what is said about its value, or the report on its fault. -/
def Reports (outcome : Outcome α) (said : α → List Event) : Prop :=
  outcome.events = eventsOf said outcome.value

/-- A fault that is no matter of report is not reported. -/
theorem reports_fail {fault : Fault} (h : fault.report? = none) : (fail fault : Outcome α).Reports said :=
  (congrArg Option.toList h).symm

/-- A fault is reported as it should be. -/
theorem reports_failWith {fault : Fault} {event : Event} (h : fault.report? = some event) :
    (failWith fault event : Outcome α).Reports said :=
  (congrArg Option.toList h).symm

/-- After an operation that says nothing on success, what the next one says is all that is said. -/
theorem Reports.andThen {first : Outcome β} {next : β → Outcome α} (hfirst : first.Reports fun _ => [])
    (hnext : ∀ b, (next b).Reports said) : (first.andThen next).Reports said := by
  obtain ⟨value, events⟩ := first
  obtain rfl : events = eventsOf (fun _ => []) value := hfirst
  cases value with
  | error fault => rfl
  | ok b => exact hnext b

/-- A function applied to the value of an operation changes nothing about its reports. -/
theorem Reports.map {first : Outcome β} (h : first.Reports fun _ => []) (f : β → α) :
    (first.map f).Reports fun _ => [] := by
  obtain ⟨value, events⟩ := first
  obtain rfl : events = eventsOf (fun _ => []) value := h
  cases value <;> rfl

/-- What holds of every report and of all that is said holds of every event of an operation. -/
theorem Reports.forall_mem {P : Event → Prop} (h : outcome.Reports said)
    (hreport : ∀ fault : Fault, ∀ event ∈ fault.report?, P event) (hsaid : ∀ a, ∀ event ∈ said a, P event) :
    ∀ event ∈ outcome.events, P event := by
  intro event hmem
  rw [h] at hmem
  cases hvalue : outcome.value with
  | ok a =>
    rw [hvalue] at hmem
    exact hsaid a event hmem
  | error fault =>
    rw [hvalue] at hmem
    exact hreport fault event (Option.mem_toList.mp hmem)

end Outcome

/-- A name that fails its check is not reported. -/
theorem report?_of_checkedName {role : NameRole} {name : String} {fault : Fault}
    (h : checkedName role name = .error fault) : fault.report? = none := by
  rw [checkedName] at h
  split at h
  · cases h
    rfl
  · split at h
    · cases h
    · cases h
      rfl

/-- The checks of a definition report what is wrong with its interfaces. -/
theorem ClassDefinition.reports_check (limit : Nat) (definition : ClassDefinition) :
    (definition.check limit).Reports fun _ => [] := by
  rw [check]
  split
  · next hname => exact Outcome.reports_fail (report?_of_checkedName hname)
  · dsimp only
    split
    · exact Outcome.reports_failWith rfl
    · split
      · exact Outcome.reports_failWith rfl
      · split
        · next hinterfaces =>
          obtain ⟨name, -, hname⟩ := exists_mem_of_mapM_eq_error hinterfaces
          exact Outcome.reports_fail (report?_of_checkedName hname)
        · rfl

namespace ClassTable

/-- A load reports the class that it has loaded, or what is wrong with the interfaces of the definition. -/
theorem reports_load (limit : Nat) (heap : Heap) (table : ClassTable) (definition : ClassDefinition) :
    (table.load limit heap definition).Reports fun loaded =>
      [.loadedClass loaded.newest.info definition.interfaces.length] := by
  refine (definition.reports_check limit).andThen fun checked => ?_
  split
  · exact Outcome.reports_fail rfl
  · rfl

/-- Loading several classes reports each that was loaded, and then what is wrong with the definition that was not. -/
theorem events_loadAll (limit : Nat) (heap : Heap) (table : ClassTable) (definitions : List ClassDefinition) :
    ∃ infos : List (TypeInfo × Nat), (table.loadAll limit heap definitions).events =
      infos.map (fun (info, count) => .loadedClass info count) ++
        Outcome.eventsOf (fun _ => []) (table.loadAll limit heap definitions).value := by
  induction definitions generalizing heap table with
  | nil => exact ⟨[], rfl⟩
  | cons definition rest ih =>
    have hfirst := reports_load limit heap table definition
    rw [Outcome.Reports] at hfirst
    rw [loadAll, Outcome.andThen, hfirst]
    cases (table.load limit heap definition).value with
    | error fault => exact ⟨[], rfl⟩
    | ok loaded =>
      obtain ⟨infos, hrest⟩ := ih loaded.heap loaded.table
      refine ⟨(loaded.newest.info, definition.interfaces.length) :: infos, ?_⟩
      dsimp only
      rw [hrest]
      rfl

end ClassTable

namespace Access

/-- A checked lookup reports what it has found, or that there are more nodes than it may visit. -/
theorem reports_implementsInterface (heap : Heap) (limit : Nat) (vector : Option VectorId) (name : CString) :
    (implementsInterface heap limit vector name).Reports fun found => [.vectorLookup name found] := by
  cases vector with
  | none => exact Outcome.reports_fail rfl
  | some vector =>
    rw [implementsInterface]
    split
    · rfl
    · exact Outcome.reports_failWith rfl

/-- The check of an array header reports a negative length. -/
theorem reports_checkedArray (heap : Heap) (array : Option ArrayId) :
    (checkedArray heap array).Reports fun _ => [] := by
  cases array with
  | none => exact Outcome.reports_fail rfl
  | some id =>
    rw [checkedArray]
    split
    · exact Outcome.reports_failWith rfl
    · rfl

end Access

/-- Decoding a character array reports a negative length. -/
theorem Encoding.reports_decodeArray (e : Encoding) (length : Int32) (elements : List e.elementType.Value) :
    (e.decodeArray length elements).Reports fun _ => [] := by
  rw [decodeArray]
  split
  · exact Outcome.reports_failWith rfl
  · split
    · rfl
    · next hdecode =>
      exact Outcome.reports_fail (Fault.report?_of_kind_ne (by rw [kind_of_decode_error hdecode]; decide))

/-- Decoding a string reports a negative length of its character array. -/
theorem StringHeader.reports_decode? {heap : Heap} {header : StringHeader} {e : Encoding} {outcome : Outcome String}
    (h : header.decode? heap e = some outcome) : outcome.Reports fun _ => [] := by
  rw [decode?] at h
  split at h
  · cases h
    exact Outcome.reports_fail rfl
  · obtain ⟨elements, -, rfl⟩ := Option.map_eq_some_iff.mp h
    exact e.reports_decodeArray _ _

/-- Reports on options are warnings. -/
theorem Config.level_ofOptions {text : List Char} {event : Event} (h : event ∈ (ofOptions text).events) :
    event.level = .warn := by
  obtain ⟨option, -, hwarning⟩ := List.mem_filterMap.mp h
  generalize Setting.ofOption option = setting at hwarning
  cases setting <;> cases hwarning <;> rfl

section Creation

variable {heap : Heap} {c charsClass : LoadedClass} {fault : Fault}

/-- A class of the wrong kind is no matter of report. -/
theorem LoadedClass.report?_of_expectKind {expected : TypeKind} (h : c.expectKind expected = .error fault) :
    fault.report? = none := by
  rw [expectKind] at h
  split at h <;> cases h
  rfl

/-- An array that cannot be allocated is no matter of report. -/
theorem Heap.report?_of_allocateArray {t : ElementType} {values : List t.Value}
    (h : heap.allocateArray c t values = .error fault) : fault.report? = none := by
  rw [allocateArray] at h
  split at h
  · next hkind =>
    cases h
    exact LoadedClass.report?_of_expectKind hkind
  · split at h <;> cases h
    rfl

/-- A string that cannot be created is no matter of report. -/
theorem Instance.report?_of_newString {text : String} {e : Encoding}
    (h : newString heap c charsClass text e = .error fault) : fault.report? = none := by
  rw [newString] at h
  split at h
  · next hkind =>
    cases h
    exact LoadedClass.report?_of_expectKind hkind
  · split at h
    · next hencode =>
      cases h
      exact Fault.report?_of_kind_ne (by rw [Encoding.kind_of_encode_error hencode]; decide)
    · exact Heap.report?_of_allocateArray (map_eq_error_iff.mp h)

/-- A class that is not loaded is no matter of report. -/
theorem Instance.report?_of_requiredClass {table : ClassTable} {name : String}
    (h : requiredClass table name = .error fault) : fault.report? = none := by
  rw [requiredClass] at h
  split at h <;> cases h
  rfl

/-- A string that cannot be created from the classes of a table is no matter of report. -/
theorem Instance.report?_of_newStringIn {table : ClassTable} {config : Config} {text : String}
    (h : newStringIn heap table config text = .error fault) : fault.report? = none := by
  rw [newStringIn] at h
  split at h
  · next hstring =>
    cases h
    exact report?_of_requiredClass hstring
  · split at h
    · next hchars =>
      cases h
      exact report?_of_requiredClass hchars
    · exact report?_of_newString h

end Creation

end ObjectModel
