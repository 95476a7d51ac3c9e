import ObjectModel.Proofs.Report
import ObjectModel.Proofs.Session.Effect

/-!
# Responses account for their warnings

A response warns of the fault that it has instead of an answer, if that is a matter of report, and of nothing else. This
holds of every command, and of every query that neither parses options nor reads a part that a header lacks. What is read
through an entry point for native code has the events of the read behind it, and at most an error more.
-/

namespace ObjectModel

/-- There are no warnings among events of other levels. -/
theorem Event.filter_warn_eq_nil {events : List Event} (h : ∀ event ∈ events, event.level ≠ .warn) :
    events.filter (·.level = .warn) = [] :=
  List.filter_eq_nil_iff.mpr fun event hmem => decide_eq_true_iff.not.mpr (h event hmem)

namespace Response

variable {α β : Type} {level : Level} {response : Response α}

/-- The fault that a response has instead of an answer. -/
def fault? (response : Response α) : Option Fault :=
  match response.result with
  | .error (.faulted fault) => some fault
  | _ => none

/-- The warnings among the events of a response. -/
def warnings (response : Response α) : List Event :=
  response.events.filter (·.level = .warn)

/-- The warnings of a response are its events of that level. -/
theorem mem_warnings_iff {event : Event} :
    event ∈ response.warnings ↔ event ∈ response.events ∧ event.level = .warn := by
  rw [warnings, List.mem_filter, decide_eq_true_iff]

/-- A response accounts for its warnings: the only one is the report on its fault. It has no event of the given level. -/
structure Accounts (response : Response α) (level : Level) : Prop where
  warned : response.warnings = (response.fault?.bind Fault.report?).toList
  quiet : response.Only fun event => event.level ≠ level

/-- An answer without an event has nothing to account for. -/
theorem accounts_answer (a : α) : (answer a).Accounts level := ⟨rfl, only_answer a⟩

/-- A refusal has nothing to account for. -/
theorem accounts_refuse (refusal : Refusal) : (refuse refusal : Response α).Accounts level :=
  ⟨rfl, only_refuse refusal⟩

/-- A request with an operand accounts for its warnings if it does for all that the operand may stand for. -/
theorem accounts_given {operand : Except Refusal α} {respond : α → Response β}
    (h : ∀ a, operand = .ok a → (respond a).Accounts level) : (given operand respond).Accounts level := by
  cases operand with
  | error refusal => exact accounts_refuse refusal
  | ok a => exact h a rfl

/-- An answer with events that are no warnings has nothing to account for. -/
theorem accounts_of_ok {a : α} (hresult : response.result = .ok a)
    (hevents : ∀ event ∈ response.events, event.level ≠ .warn ∧ event.level ≠ level) : response.Accounts level where
  warned := by
    rw [fault?, hresult]
    exact Event.filter_warn_eq_nil fun event hmem => (hevents event hmem).1
  quiet event hmem := (hevents event hmem).2

/-- A response accounts for its warnings whatever its answer is turned into. -/
theorem Accounts.map (h : response.Accounts level) (f : α → β) : (response.map f).Accounts level where
  warned := by
    have hfault : (response.map f).fault? = response.fault? := by
      rw [fault?, fault?, Response.map]
      rcases response.result with (- | - | -) | - <;> rfl
    exact hfault ▸ h.warned
  quiet := h.quiet

/-- An answer that accounts for its warnings has none. -/
theorem Accounts.warnings_of_ok (h : response.Accounts level) {a : α} (hresult : response.result = .ok a) :
    response.warnings = [] := by
  rw [h.warned, fault?, hresult]
  rfl

/-- A response that fails as malformed and accounts for its warnings has one warning, which is the report on its fault. -/
theorem Accounts.warnings_of_malformed (h : response.Accounts level) {fault : Fault}
    (hresult : response.result = .error (.faulted fault)) (hkind : fault.kind = .malformedMetadata) :
    ∃ event, fault.report? = some event ∧ response.warnings = [event] := by
  obtain ⟨event, hreport⟩ := Fault.exists_report?_iff.mpr hkind
  refine ⟨event, hreport, ?_⟩
  rw [h.warned, fault?, hresult, Option.bind_some, hreport, Option.toList_some]

/-- A response that accounts for its warnings and has one fails as malformed. -/
theorem Accounts.exists_malformed (h : response.Accounts level) {event : Event} (hmem : event ∈ response.warnings) :
    ∃ fault, response.result = .error (.faulted fault) ∧ fault.kind = .malformedMetadata := by
  rw [h.warned, Option.mem_toList, Option.bind_eq_some_iff] at hmem
  obtain ⟨fault, hfault, hreport⟩ := hmem
  refine ⟨fault, ?_, Fault.exists_report?_iff.mp ⟨event, hreport⟩⟩
  rw [fault?] at hfault
  split at hfault
  · next hresult => exact Option.some.inj hfault ▸ hresult
  · cases hfault

/-- An operation that says some things and then reports its fault, if there is one, accounts for its warnings. -/
theorem accounts_ofOutcome {outcome : Outcome α} {f : α → β} {said : List Event} (hlevel : level ≠ .warn)
    (hevents : outcome.events = said ++ Outcome.eventsOf (fun _ => []) outcome.value)
    (hsaid : ∀ event ∈ said, event.level ≠ .warn ∧ event.level ≠ level) : (ofOutcome outcome f).Accounts level := by
  cases hvalue : outcome.value with
  | ok a =>
    rw [hvalue, Outcome.eventsOf, List.append_nil] at hevents
    refine accounts_of_ok (a := f a) ?_ (fun event hmem => hsaid event (hevents ▸ hmem))
    rw [ofOutcome, hvalue]
    rfl
  | error fault =>
    rw [hvalue, Outcome.eventsOf] at hevents
    have hreport : ∀ event ∈ fault.report?.toList, event.level = .warn :=
      fun event hmem => fault.level_report? event (Option.mem_toList.mp hmem)
    refine ⟨?_, fun event hmem => ?_⟩
    · have hplain : said.filter (·.level = .warn) = [] :=
        Event.filter_warn_eq_nil fun event hmem => (hsaid event hmem).1
      have hwarned : fault.report?.toList.filter (·.level = .warn) = fault.report?.toList :=
        List.filter_eq_self.mpr fun event hmem => decide_eq_true (hreport event hmem)
      have hfault : (ofOutcome outcome f).fault? = some fault := by
        rw [fault?, result_ofOutcome_of_error hvalue]
      rw [hfault, Option.bind_some, warnings, ofOutcome, hevents, List.filter_append, hplain, hwarned, List.nil_append]
    · rw [ofOutcome, hevents] at hmem
      rcases List.mem_append.mp hmem with hold | hnew
      · exact (hsaid event hold).2
      · exact hreport event hnew ▸ hlevel.symm

/-- An operation that reports its fault, and on success says things that are no warnings, accounts for its warnings. -/
theorem accounts_of_reports {outcome : Outcome α} {f : α → β} {said : α → List Event} (hlevel : level ≠ .warn)
    (h : outcome.Reports said) (hsaid : ∀ a, ∀ event ∈ said a, event.level ≠ .warn ∧ event.level ≠ level) :
    (ofOutcome outcome f).Accounts level := by
  cases hvalue : outcome.value with
  | ok a =>
    refine accounts_ofOutcome hlevel ?_ (hsaid a)
    rw [h, hvalue, Outcome.eventsOf, Outcome.eventsOf, List.append_nil]
  | error fault =>
    refine accounts_ofOutcome hlevel ?_ (List.forall_mem_nil _)
    rw [h, hvalue]
    rfl

/-- An operation that reports its fault and says nothing on success accounts for its warnings. -/
theorem accounts_of_reports_nil {outcome : Outcome α} {f : α → β} (hlevel : level ≠ .warn)
    (h : outcome.Reports fun _ => []) : (ofOutcome outcome f).Accounts level :=
  accounts_of_reports hlevel h fun _ _ hmem => absurd hmem List.not_mem_nil

/-- A result without events accounts for its warnings if no fault of it is a matter of report. -/
theorem accounts_of_unreported {result : Except Fault α} {f : α → β} (hlevel : level ≠ .warn)
    (h : ∀ fault, result = .error fault → fault.report? = none) : (ofOutcome ⟨result, []⟩ f).Accounts level := by
  refine accounts_of_reports_nil hlevel ?_
  cases result with
  | ok a => rfl
  | error fault => exact Outcome.reports_fail (h fault rfl)

end Response

/-- Whether a command is reported when it succeeds. -/
def Command.isReported : Command → Bool
  | install _ => true
  | replace _ => true
  | newBuiltinTable => true
  | load .. => true
  | _ => false

namespace Query

/-- The query behind one that goes through an entry point for native code; any other query is behind itself. -/
def underlying : Query → Query
  | nativeVector header => readVector header
  | nativeImplements vector (some name) => readImplements vector name
  | nativeLength array => readLength array
  | nativeData array => readData array
  | nativeCharacters string => readCharacters string
  | q => q

/-- Whether a query parses options. -/
def parsesOptions : Query → Bool
  | parseOptions _ => true
  | parseEnvironment _ => true
  | _ => false

/-- What is behind the query behind a query is that query itself. -/
theorem underlying_underlying (q : Query) : q.underlying.underlying = q.underlying := by
  cases q with
  | nativeImplements vector name => cases name <;> rfl
  | _ => rfl

/-- What parses options has nothing else behind it. -/
theorem underlying_of_parsesOptions {q : Query} (h : q.underlying.parsesOptions = true) : q.underlying = q := by
  cases q with
  | nativeImplements vector name => cases name <;> cases h
  | nativeVector => cases h
  | nativeLength => cases h
  | nativeData => cases h
  | nativeCharacters => cases h
  | _ => rfl

end Query

/-- The events are those of a read, and behind them only errors. -/
def AddsErrors (events read : List Event) : Prop :=
  ∃ errors, events = read ++ errors ∧ ∀ event ∈ errors, event.level = .error

/-- The events of a read are those of the read, and behind them nothing. -/
theorem AddsErrors.refl (events : List Event) : AddsErrors events events :=
  ⟨[], (List.append_nil events).symm, List.forall_mem_nil _⟩

/-- Falling back to a sentinel adds at most a violation. -/
theorem Native.addsErrors_orSentinel {α : Type} (entry : EntryPoint) (sentinel : α) (outcome : Outcome α) :
    AddsErrors (orSentinel entry sentinel outcome).events outcome.events := by
  rw [orSentinel]
  split
  · exact .refl _
  · refine ⟨[.violation entry], rfl, fun event hmem => ?_⟩
    cases List.mem_singleton.mp hmem
    rfl

namespace Session

open Response

variable {s : Session} {q : Query} {c : Command} {level : Level}

/-- A query reads the dispatch vector or the characters of a header that is not null and lacks them. -/
def LacksPart (s : Session) : Query → Prop
  | .readVector operand => ∃ header, s.object operand = .ok (some header) ∧ header.vector = none
  | .readCharacters operand => ∃ header, s.string operand = .ok (some header) ∧ header.characters = none
  | _ => False

/-- What an entry point adds to a read it adds to a request for the read. -/
theorem addsErrors_given {α β γ : Type} {operand : Except Refusal α} {native : α → Logged β} {read : α → Outcome γ}
    {f : β → Answer} {g : γ → Answer} (h : ∀ a, AddsErrors (native a).events (read a).events) :
    AddsErrors (given operand fun a => ofLogged (native a) f).events
      (given operand fun a => ofOutcome (read a) g).events := by
  cases operand with
  | error refusal => exact .refl []
  | ok a => exact h a

/-- An entry point for native code has the events of the read behind it, and behind them at most its violation. -/
theorem addsErrors_ask (s : Session) (q : Query) : AddsErrors (s.ask q).events (s.ask q.underlying).events := by
  cases q with
  | nativeVector => exact addsErrors_given fun _ => Native.addsErrors_orSentinel _ _ _
  | nativeImplements vector name =>
    cases name with
    | none => exact .refl _
    | some name => exact addsErrors_given fun _ => Native.addsErrors_orSentinel _ _ _
  | nativeLength => exact addsErrors_given fun _ => Native.addsErrors_orSentinel _ _ _
  | nativeData => exact addsErrors_given fun _ => Native.addsErrors_orSentinel _ _ _
  | nativeCharacters => exact addsErrors_given fun _ => Native.addsErrors_orSentinel _ _ _
  | _ => exact .refl _

/-- Reading a part that a header lacks fails for an invalid reference, with one warning. -/
theorem ask_of_lacksPart (h : s.LacksPart q) : ∃ fault event, fault.kind = .invalidReference ∧ event.level = .warn ∧
    s.ask q = ⟨.error (.faulted fault), [event]⟩ := by
  cases q with
  | readVector operand =>
    obtain ⟨header, hheader, hlacks⟩ := h
    refine ⟨.noDispatchVector, .noDispatchVector, rfl, rfl, ?_⟩
    simp only [ask, hheader, given, Access.dispatchVector, hlacks]
    rfl
  | readCharacters operand =>
    obtain ⟨header, hheader, hlacks⟩ := h
    refine ⟨.noCharacters, .noCharacters, rfl, rfl, ?_⟩
    simp only [ask, hheader, given, Access.stringCharacters, hlacks]
    rfl
  | _ => exact absurd h id

/-- A query that neither parses options nor reads a part that a header lacks accounts for its warnings. -/
theorem accounts_ask (s : Session) (hnative : q.underlying = q) (hparse : q.parsesOptions = false)
    (hpart : ¬s.LacksPart q) : (s.ask q).Accounts .debug := by
  have hdecode : ∀ operand e, (s.decodeString operand e).Accounts .debug := by
    intro operand e
    refine accounts_given fun header _ => accounts_given fun outcome houtcome => ?_
    exact accounts_of_reports_nil (by decide) (StringHeader.reports_decode? (orRefuse_eq_ok_iff.mp houtcome))
  have hlookup : ∀ (c : LoadedClass) name, (ofLogged (c.lookupInterface s.heap name) Answer.flag).Accounts .debug := by
    intro c name
    exact accounts_of_ok rfl (List.forall_mem_singleton.mpr ⟨Level.noConfusion, Level.noConfusion⟩)
  -- The entry points have a read behind them, but for the lookup of a null name, which reads nothing.
  cases q with
  | currentConfig => exact accounts_answer _
  | parseOptions => cases hparse
  | parseEnvironment => cases hparse
  | classOfVector => exact accounts_given fun _ _ => accounts_given fun _ _ => accounts_answer _
  | classImplements => exact accounts_given fun c _ => hlookup c _
  | sameVector => exact accounts_given fun _ _ => accounts_given fun _ _ => accounts_answer _
  | viewNode i =>
    cases i with
    | none => exact accounts_answer _
    | some i => exact accounts_given fun _ _ => accounts_answer _
  | readVector operand =>
    refine accounts_given fun header hheader => accounts_of_reports_nil (by decide) ?_
    rcases header with - | ⟨- | vector⟩
    · exact Outcome.reports_fail rfl
    · exact absurd ⟨_, hheader, rfl⟩ hpart
    · rfl
  | readImplements vector name =>
    refine accounts_given fun vector _ => ?_
    refine accounts_of_reports (by decide) (Access.reports_implementsInterface _ _ vector name) fun _ => ?_
    exact List.forall_mem_singleton.mpr ⟨Level.noConfusion, Level.noConfusion⟩
  | readLength =>
    exact accounts_given fun id _ => accounts_of_reports_nil (by decide) ((Access.reports_checkedArray _ id).map _)
  | readData =>
    exact accounts_given fun id _ => accounts_of_reports_nil (by decide) ((Access.reports_checkedArray _ id).map _)
  | readCharacters operand =>
    refine accounts_given fun header hheader => accounts_of_reports_nil (by decide) ?_
    rcases header with - | ⟨vector, - | id⟩
    · exact Outcome.reports_fail rfl
    · exact absurd ⟨_, hheader, rfl⟩ hpart
    · rfl
  | nativeVector => cases hnative
  | nativeImplements vector name =>
    cases name with
    | none =>
      refine accounts_given fun _ _ => ?_
      exact accounts_of_ok rfl (List.forall_mem_singleton.mpr ⟨Level.noConfusion, Level.noConfusion⟩)
    | some => cases hnative
  | nativeLength => cases hnative
  | nativeData => cases hnative
  | nativeCharacters => cases hnative
  | instanceImplements => exact accounts_given fun value _ => hlookup value.ofClass _
  | reportString => exact accounts_given fun _ _ => accounts_given fun _ _ => accounts_answer _
  | decode string e => exact hdecode string e
  | decodeAsConfigured string => exact hdecode string _
  | _ => exact accounts_given fun _ _ => accounts_answer _

/-- A command that is not reported accounts for its warnings and has no other events. -/
theorem accounts_attempt_of_not_reported (s : Session) (h : c.isReported = false) (hlevel : level ≠ .warn) :
    (s.attempt c).Accounts level := by
  -- Only creating an instance can fail here for a fault, and none of these faults is a matter of report.
  cases c with
  | install => cases h
  | replace => cases h
  | newTable => exact accounts_answer _
  | newBuiltinTable => cases h
  | load => cases h
  | linkClass => exact accounts_answer _
  | dropTable =>
    refine accounts_given fun _ _ => ?_
    split
    · exact accounts_refuse _
    · exact accounts_answer _
  | dropInstance =>
    refine accounts_given fun _ _ => ?_
    split
    · exact accounts_refuse _
    · exact accounts_answer _
  | makeArray =>
    refine accounts_given fun _ _ => ?_
    dsimp only
    split
    · exact accounts_refuse _
    · exact accounts_answer _
  | makeString => exact accounts_given fun _ _ => accounts_given fun _ _ => accounts_answer _
  | newObject =>
    refine accounts_given fun _ _ => accounts_of_unreported hlevel fun fault hfault => ?_
    exact LoadedClass.report?_of_expectKind (map_eq_error_iff.mp (map_eq_error_iff.mp hfault))
  | newArray =>
    refine accounts_given fun _ _ => accounts_of_unreported hlevel fun fault hfault => ?_
    exact Heap.report?_of_allocateArray (map_eq_error_iff.mp hfault)
  | newString =>
    refine accounts_given fun _ _ => accounts_given fun _ _ => ?_
    exact accounts_of_unreported hlevel fun fault => Instance.report?_of_newString
  | newStringIn =>
    exact accounts_given fun _ _ => accounts_of_unreported hlevel fun fault => Instance.report?_of_newStringIn
  | _ => exact accounts_given fun _ _ => accounts_answer _

/-- A command that is not reported has no debug event. -/
theorem quiet_attempt (s : Session) (h : c.isReported = false) :
    (s.attempt c).Only fun event => event.level ≠ .debug :=
  (s.accounts_attempt_of_not_reported h (by decide)).quiet

/-- Every command accounts for its warnings. -/
theorem accounts_attempt (s : Session) (c : Command) : (s.attempt c).Accounts .trace := by
  cases c with
  | install config =>
    simp only [attempt, ConfigSlot.install?]
    cases s.slot.installed with
    | none =>
      exact accounts_of_ok rfl (List.forall_mem_singleton.mpr ⟨Level.noConfusion, Level.noConfusion⟩)
    | some => exact ⟨rfl, List.forall_mem_nil _⟩
  | replace config =>
    exact accounts_of_ok rfl (List.forall_mem_singleton.mpr ⟨Level.noConfusion, Level.noConfusion⟩)
  | newBuiltinTable =>
    obtain ⟨infos, hevents⟩ := ClassTable.events_loadAll s.config.walkBound s.heap .empty builtinDefinitions
    refine accounts_ofOutcome (by decide) hevents fun event hmem => ?_
    obtain ⟨_, -, rfl⟩ := List.mem_map.mp hmem
    exact ⟨Level.noConfusion, Level.noConfusion⟩
  | load handle definition =>
    refine accounts_given fun _ _ => accounts_given fun table _ => ?_
    refine accounts_of_reports (by decide) (ClassTable.reports_load _ _ table definition) fun _ => ?_
    exact List.forall_mem_singleton.mpr ⟨Level.noConfusion, Level.noConfusion⟩
  | _ => exact s.accounts_attempt_of_not_reported rfl (by decide)

/-- Parsing options always has an answer, and no events but warnings. -/
theorem ask_of_parsesOptions (s : Session) (h : q.parsesOptions = true) :
    (∃ answer, (s.ask q).result = .ok answer) ∧ (s.ask q).Only fun event => event.level = .warn := by
  cases q with
  | parseOptions text => exact ⟨⟨_, rfl⟩, fun event => Config.level_ofOptions⟩
  | parseEnvironment value =>
    cases value with
    | none => exact ⟨⟨_, rfl⟩, fun _ hmem => nomatch hmem⟩
    | some bytes => exact ⟨⟨_, rfl⟩, fun event => Config.level_ofOptions⟩
  | _ => cases h

/-- No query has a debug event. -/
theorem quiet_ask (s : Session) (q : Query) : (s.ask q).Only fun event => event.level ≠ .debug := by
  obtain ⟨errors, hevents, herrors⟩ := s.addsErrors_ask q
  have hread : (s.ask q.underlying).Only fun event => event.level ≠ .debug := by
    by_cases hpart : s.LacksPart q.underlying
    · obtain ⟨fault, event, -, hwarn, hask⟩ := ask_of_lacksPart hpart
      rw [hask]
      intro other hmem
      rw [List.mem_singleton.mp hmem, hwarn]
      exact Level.noConfusion
    · cases hparse : q.underlying.parsesOptions with
      | false => exact (s.accounts_ask q.underlying_underlying hparse hpart).quiet
      | true =>
        intro event hmem
        rw [(s.ask_of_parsesOptions hparse).2 event hmem]
        exact Level.noConfusion
  intro event hmem
  rw [hevents] at hmem
  rcases List.mem_append.mp hmem with hold | hnew
  · exact hread event hold
  · rw [herrors event hnew]
    exact Level.noConfusion

end Session

end ObjectModel
