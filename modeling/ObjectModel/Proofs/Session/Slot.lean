import ObjectModel.Proofs.Session.Accounts
import ObjectModel.Proofs.Session.Erasure

/-!
# The configuration slot is a register

The slot is written once by installing, and from then on by replacing only. After any requests the last configuration
that took effect is in force, and what installing and replacing answer follows from the configurations that took effect
before. They are announced, in order, and nothing else is. No other request changes the configuration.
-/

namespace ObjectModel

/-- Whether an event announces a configuration, as its level and message tell. -/
def Event.announces (event : Event) : Bool :=
  event.level = .debug &&
    (event.message = "installing layout configuration" || event.message = "replacing layout configuration")

namespace Session

/-- Whether a request is to install or to replace a configuration. -/
def configures : Request → Bool
  | .command (.install _) => true
  | .command (.replace _) => true
  | _ => false

/-- The configuration that has taken effect by a request, if one has. -/
def putInForce? : Request × Response Answer → Option Config
  | (.command (.install config), ⟨.ok _, _⟩) => some config
  | (.command (.replace config), ⟨.ok _, _⟩) => some config
  | _ => none

/-- The announcement of the configuration that has taken effect by a request. -/
def announcement? : Request × Response Answer → Option Event
  | (.command (.install config), ⟨.ok _, _⟩) => some (.installing config)
  | (.command (.replace config), ⟨.ok _, _⟩) => some (.replacing config)
  | _ => none

/-- The configurations that have taken effect in a run, in order. -/
def configsInForce (s : Session) (requests : List Request) : List Config :=
  (s.transcript requests).filterMap putInForce?

/-- The announcements of configurations in a run, in order. -/
def announcements (s : Session) (requests : List Request) : List Event :=
  ((s.run requests).2.flatMap Response.events).filter Event.announces

/-- The slot is a register when these are the configurations that have taken effect. -/
structure Registers (s : Session) (configs : List Config) : Prop where
  /-- The last of them is in force, or the standard one if there is none. -/
  inForce : s.config = configs.getLast?.getD .standard
  current : s.ask .currentConfig = .answer (.config (configs.getLast?.getD .standard))
  /-- Installing takes effect exactly when there is none; otherwise it gives back what it was given and does nothing. -/
  install : ∀ config, s.perform (.command (.install config)) =
    if configs = [] then ({ s with slot := ⟨some config⟩ }, ⟨.ok .done, [.installing config]⟩)
    else (s, ⟨.error (.alreadyInstalled config), []⟩)
  /-- Replacing always takes effect, and gives back the last of them. -/
  replace : ∀ config, s.perform (.command (.replace config)) =
    ({ s with slot := ⟨some config⟩ }, ⟨.ok (.previousConfig configs.getLast?), [.replacing config]⟩)
  /-- Nothing else changes the configuration or announces one. -/
  others : ∀ request, configures request = false →
    (s.perform request).1.slot = s.slot ∧ (s.perform request).2.Only fun event => event.announces = false

/-- After a run the slot is a register of the configurations that have taken effect, which were announced in order. -/
structure KeepsConfigs (requests : List Request) : Prop where
  slot : (start.run requests).1.Registers (start.configsInForce requests)
  announced : start.announcements requests = (start.transcript requests).filterMap announcement?
  told : (start.announcements requests).map Event.fields =
    (start.configsInForce requests).map fun config => [("config", .text config.describe)]

end Session

/-- Only a debug event announces a configuration. -/
theorem Event.announces_eq_false {event : Event} (h : event.level ≠ .debug) : event.announces = false := by
  rw [announces, decide_eq_false h, Bool.false_and]

/-- The report on a fault announces no configuration. -/
theorem Fault.announces_report? (fault : Fault) : ∀ event ∈ fault.report?, event.announces = false := by
  intro event hmem
  apply Event.announces_eq_false
  rw [fault.level_report? event hmem]
  exact Level.noConfusion

/-- Loading several classes announces no configuration. -/
theorem ClassTable.announces_loadAll {limit : Nat} {heap : Heap} {table : ClassTable}
    {definitions : List ClassDefinition} {event : Event} (h : event ∈ (table.loadAll limit heap definitions).events) :
    event.announces = false := by
  obtain ⟨infos, hevents⟩ := events_loadAll limit heap table definitions
  rw [hevents, List.mem_append] at h
  rcases h with hloaded | hfault
  · obtain ⟨_, -, rfl⟩ := List.mem_map.mp hloaded
    rfl
  · revert hfault
    cases (table.loadAll limit heap definitions).value with
    | ok result => exact fun hmem => nomatch hmem
    | error fault => exact fun hmem => fault.announces_report? event (Option.mem_toList.mp hmem)

namespace Session

open Response

variable {s next : Session} {c : Command}

/-- No query announces a configuration. -/
theorem only_ask (s : Session) (q : Query) : (s.ask q).Only fun event => event.announces = false :=
  fun event hmem => Event.announces_eq_false (s.quiet_ask q event hmem)

/-- No command announces a configuration but to install or to replace one. -/
theorem only_attempt (s : Session) (h : configures (.command c) = false) :
    (s.attempt c).Only fun event => event.announces = false := by
  cases hreported : c.isReported with
  | false => exact fun event hmem => Event.announces_eq_false (s.quiet_attempt hreported event hmem)
  | true =>
    cases c with
    | install => cases h
    | replace => cases h
    | newBuiltinTable => exact fun _ => ClassTable.announces_loadAll
    | load handle definition =>
      refine only_given fun _ _ => only_given fun table _ => only_ofOutcome ?_
      refine (ClassTable.reports_load _ _ table definition).forall_mem Fault.announces_report? fun _ event hmem => ?_
      cases List.mem_singleton.mp hmem
      rfl
    | _ => cases hreported

section Register

variable {request : Request} {response : Response Answer} {configs : List Config}

/-- A request about anything else puts no configuration in force, so none is to be announced. -/
theorem putInForce?_of_not_configures (h : configures request = false) :
    putInForce? (request, response) = none ∧ announcement? (request, response) = none := by
  rcases request with q | c
  · exact ⟨rfl, rfl⟩
  · cases c with
    | install => cases h
    | replace => cases h
    | _ => exact ⟨rfl, rfl⟩

/-- Installing takes effect on an empty slot, and otherwise gives back what it was given. -/
theorem perform_install (s : Session) (config : Config) : s.perform (.command (.install config)) =
    if s.slot.installed = none then ({ s with slot := ⟨some config⟩ }, ⟨.ok .done, [.installing config]⟩)
    else (s, ⟨.error (.alreadyInstalled config), []⟩) := by
  rw [perform, after, attempt, ConfigSlot.install?]
  cases s.slot.installed <;> rfl

/-- Replacing takes effect on every slot, and gives back what was installed. -/
theorem perform_replace (s : Session) (config : Config) : s.perform (.command (.replace config)) =
    ({ s with slot := ⟨some config⟩ }, ⟨.ok (.previousConfig s.slot.installed), [.replacing config]⟩) := rfl

/-- No command changes the slot but to install or to replace a configuration. -/
theorem Effect.slot_eq (h : s.Effect c next) (hc : configures (.command c) = false) : next.slot = s.slot := by
  cases h with
  | install => cases hc
  | replace => cases hc
  | _ => rfl

/-- A request about anything else leaves the slot as it is and announces no configuration. -/
theorem perform_of_not_configures (h : configures request = false) :
    (s.perform request).1.slot = s.slot ∧ (s.perform request).2.Only fun event => event.announces = false := by
  constructor
  · rcases s.perform_cases request with ⟨c, rfl, -, heffect⟩ | ⟨-, hsame⟩
    · exact heffect.slot_eq h
    · rw [hsame]
  · cases request with
    | query q => exact s.only_ask q
    | command c => exact s.only_attempt h

/-- A request either installs, or replaces, or is about anything else. -/
theorem configures_cases (request : Request) : (∃ config, request = .command (.install config)) ∨
    (∃ config, request = .command (.replace config)) ∨ configures request = false := by
  rcases request with q | c
  · exact .inr (.inr rfl)
  · cases c with
    | install config => exact .inl ⟨config, rfl⟩
    | replace config => exact .inr (.inl ⟨config, rfl⟩)
    | _ => exact .inr (.inr rfl)

/-- After a request the slot has the configuration that it has put in force, or what it had. -/
theorem installed_perform (s : Session) (request : Request) : (s.perform request).1.slot.installed =
    (putInForce? (request, (s.perform request).2)).or s.slot.installed := by
  rcases configures_cases request with ⟨config, rfl⟩ | ⟨config, rfl⟩ | hother
  · rw [perform_install]
    split <;> rfl
  · rfl
  · rw [(perform_of_not_configures hother).1, (putInForce?_of_not_configures hother).1, Option.none_or]

/-- After a run the slot has the last configuration that it has put in force, or what it had. -/
theorem installed_run (s : Session) (requests : List Request) : (s.run requests).1.slot.installed =
    (s.configsInForce requests).getLast?.or s.slot.installed := by
  induction requests generalizing s with
  | nil => rfl
  | cons request rest ih =>
    have hcons : s.configsInForce (request :: rest) =
        (putInForce? (request, (s.perform request).2)).toList ++ (s.perform request).1.configsInForce rest := by
      rw [configsInForce, transcript, run, List.zip_cons_cons, List.filterMap_cons]
      cases putInForce? (request, (s.perform request).2) <;> rfl
    rw [run, ih, hcons, installed_perform, List.getLast?_append, Option.or_assoc]
    cases putInForce? (request, (s.perform request).2) <;> rfl

/-- A request announces what it has put in force and nothing else. -/
theorem announces_perform (s : Session) (request : Request) : (s.perform request).2.events.filter Event.announces =
    (announcement? (request, (s.perform request).2)).toList := by
  rcases configures_cases request with ⟨config, rfl⟩ | ⟨config, rfl⟩ | hother
  · rw [perform_install]
    split <;> rfl
  · rfl
  · rw [(putInForce?_of_not_configures hother).2, Option.toList_none, List.filter_eq_nil_iff]
    exact fun event hmem => Bool.eq_false_iff.mp ((perform_of_not_configures hother).2 event hmem)

/-- A run announces what it has put in force, in order, and nothing else. -/
theorem announcements_eq (s : Session) (requests : List Request) :
    s.announcements requests = (s.transcript requests).filterMap announcement? := by
  induction requests generalizing s with
  | nil => rfl
  | cons request rest ih =>
    rw [announcements, run, List.flatMap_cons, List.filter_append, announces_perform, ← announcements, ih, transcript,
      transcript, run, List.zip_cons_cons, List.filterMap_cons]
    cases announcement? (request, (s.perform request).2) <;> rfl

/-- The announcement of a configuration tells the configuration. -/
theorem fields_announcement? (entry : Request × Response Answer) :
    (announcement? entry).map Event.fields =
      (putInForce? entry).map fun config => [("config", .text config.describe)] := by
  obtain ⟨request, result, events⟩ := entry
  rcases configures_cases request with ⟨config, rfl⟩ | ⟨config, rfl⟩ | hother
  · cases result <;> rfl
  · cases result <;> rfl
  · rw [(putInForce?_of_not_configures hother).1, (putInForce?_of_not_configures hother).2]
    rfl

/-- The slot of every session is a register of any configurations the last of which it has. -/
theorem registers_of_installed (h : s.slot.installed = configs.getLast?) : s.Registers configs := by
  have hcurrent : s.config = configs.getLast?.getD .standard := congrArg (Option.getD · Config.standard) h
  refine ⟨hcurrent, ?_, fun config => ?_, fun config => ?_, fun request => perform_of_not_configures⟩
  · rw [ask, hcurrent]
  · simp only [perform_install, h, List.getLast?_eq_none_iff]
  · rw [perform_replace, h]

/-- The configuration slot is a register that is written once and then replaced, whatever else is requested. -/
theorem slot_isRegister (requests : List Request) : KeepsConfigs requests where
  slot := registers_of_installed ((installed_run start requests).trans (Option.or_none))
  announced := start.announcements_eq requests
  told := by
    rw [announcements_eq, configsInForce, List.map_filterMap, List.map_filterMap]
    exact congrArg (List.filterMap · _) (funext fields_announcement?)

/-- A configuration that is replaced before any is installed; what is installed after that is given back. -/
example :
    let (s, responses) := start.run [.command (.replace ⟨.utf8, 3⟩), .command .newTable, .command (.install .standard)]
    s.config = ⟨.utf8, 3⟩ ∧ responses.map Response.events = [[.replacing ⟨.utf8, 3⟩], [], []] ∧
      responses.map (fun response => response.result.toOption.isSome) = [true, true, false] := by
  cbv

end Register

end Session

end ObjectModel
