import ObjectModel.Proofs.Class.Table
import ObjectModel.Proofs.Session.Growth

/-!
# Tables over a run

Over any run a table holds the definitions that were loaded into it, through whatever handle and under whatever
configuration. Failed loads and all other requests leave no trace in it.
-/

namespace ObjectModel.Session

open Response

/-- The definition that a request has loaded into the table of a number, with the id that the client was given. -/
def acceptedBy (s : Session) (number : Nat) (request : Request) (response : Response Answer) :
    List (ClassDefinition × ClassId) :=
  match request, response.result with
  | .command (.load handle definition), .ok (.loaded id) =>
    if s.tableOf? handle = some number then [(definition, id)] else []
  | _, _ => []

/-- The definitions that a run has loaded into the table of a number, in order, with the ids given for them. -/
def accepted (s : Session) (number : Nat) : List Request → List (ClassDefinition × ClassId)
  | [] => []
  | request :: rest =>
    let first := s.perform request
    s.acceptedBy number request first.2 ++ accepted first.1 number rest

/-- The table of a number holds the accepted definitions, and each was given its position as id. -/
def Holds (s : Session) (number : Nat) (accepted : List (ClassDefinition × ClassId)) : Prop :=
  ∃ table, s.tables[number]? = some table ∧ table.Represents s.heap (accepted.map Prod.fst) ∧
    ∀ (i : Nat) definition id, accepted[i]? = some (definition, id) → id = ⟨i⟩

variable {s next : Session} {a : Answer} {number : Nat} {accepted : List (ClassDefinition × ClassId)}

/-- The session after a command that succeeds is the next one, and the response is its answer. -/
theorem perform_of_ok {c : Command} (h : (s.attempt c).result = .ok (next, a)) :
    s.perform (.command c) = (next, ⟨.ok a, (s.attempt c).events⟩) := by
  simp [perform, after, h, Except.map]

/-- Requests other than loads accept nothing. -/
theorem acceptedBy_of_not_load {request : Request} (response : Response Answer)
    (h : ∀ handle definition, request ≠ .command (.load handle definition)) :
    s.acceptedBy number request response = [] := by
  unfold acceptedBy
  split
  · next handle definition id _ => exact absurd rfl (h handle definition)
  · rfl

/-- A table without classes has accepted nothing. -/
theorem holds_newTable (s : Session) : (s.perform (.command .newTable)).1.Holds s.tables.length [] := by
  refine ⟨.empty, ?_, .empty _, fun i definition id h => ?_⟩
  · exact List.getElem?_concat_length
  · rw [List.getElem?_nil] at h
    cases h

/-- A table that stays the same holds what it held. -/
theorem Holds.mono (h : s.Holds number accepted) (hheap : s.heap.Grows next.heap)
    (htable : next.tables[number]? = s.tables[number]?) : next.Holds number accepted := by
  obtain ⟨table, hnumber, hrepresents, hids⟩ := h
  exact ⟨table, htable.trans hnumber, hrepresents.mono hheap, hids⟩

/-- A load into the table adds its definition, with the next position as id. -/
theorem Holds.load (h : s.Holds number accepted) {table : ClassTable} {definition : ClassDefinition} {loaded : Loaded}
    (htable : s.tables[number]? = some table)
    (hload : (table.load s.config.walkBound s.heap definition).value = .ok loaded) :
    (s.setTable number loaded.heap loaded.table).Holds number
      (accepted ++ [(definition, loaded.newest.info.id)]) := by
  obtain ⟨other, hother, hrepresents, hids⟩ := h
  cases htable.symm.trans hother
  obtain ⟨checked, hchecked, hnew, rfl⟩ := ClassTable.load_eq_ok_iff.mp hload
  refine ⟨_, List.getElem?_set_self (List.getElem?_eq_some_iff.mp htable).1, ?_, fun i other id hi => ?_⟩
  · rw [List.map_append]
    exact hrepresents.insert hchecked hnew
  · rcases getElem?_concat_cases hi with hold | ⟨hlast, hpair⟩
    · exact hids i other id hold
    · have hsize : table.size = accepted.length := hrepresents.size.trans (List.length_map _)
      rw [← (Prod.mk.inj hpair).2]
      exact congrArg ClassId.mk (hsize.trans hlast.symm)

/-- A command that succeeds adds to what a table holds the definition that it has loaded into it. -/
theorem Holds.of_ok (h : s.Holds number accepted) {c : Command} (hresult : (s.attempt c).result = .ok (next, a))
    (events : List Event) : next.Holds number (accepted ++ s.acceptedBy number (.command c) ⟨.ok a, events⟩) := by
  by_cases hc : ∃ handle definition, c = .load handle definition
  · obtain ⟨handle, definition, rfl⟩ := hc
    obtain ⟨target, old, loaded, htarget, hold, hload, rfl, rfl⟩ := load_result_eq_ok_iff.mp hresult
    by_cases heq : target = number
    · cases heq
      simp only [acceptedBy, htarget, if_true]
      exact h.load hold hload
    · have hne : some target ≠ some number := fun hsome => heq (Option.some.inj hsome)
      simp only [acceptedBy, htarget, if_neg hne, List.append_nil]
      exact h.mono (ClassTable.grows_load hload) (List.getElem?_set_ne heq)
  · have hother : ∀ handle definition, c ≠ .load handle definition := fun handle definition heq =>
      hc ⟨handle, definition, heq⟩
    have hnone : s.acceptedBy number (.command c) ⟨.ok a, events⟩ = [] :=
      acceptedBy_of_not_load _ (fun handle definition heq => hother handle definition (Request.command.inj heq))
    rw [hnone, List.append_nil]
    obtain ⟨table, htable, -, -⟩ := id h
    have hextends := extends_attempt hother hresult
    exact h.mono hextends.heap (hextends.tables number (List.getElem?_eq_some_iff.mp htable).1)

/-- A request adds to what a table holds the definition that it has loaded into it. -/
theorem Holds.perform (h : s.Holds number accepted) (request : Request) :
    (s.perform request).1.Holds number (accepted ++ s.acceptedBy number request (s.perform request).2) := by
  cases request with
  | query q =>
    have hnone : s.acceptedBy number (.query q) (s.perform (.query q)).2 = [] :=
      acceptedBy_of_not_load _ (fun _ _ heq => nomatch heq)
    rw [hnone, List.append_nil]
    exact h
  | command c =>
    cases hresult : (s.attempt c).result with
    | error failure =>
      have hnone : s.acceptedBy number (.command c) (s.perform (.command c)).2 = [] := by
        simp [acceptedBy, Session.perform, hresult, Except.map]
      rw [hnone, List.append_nil, perform_of_error hresult]
      exact h
    | ok changed =>
      rw [perform_of_ok hresult]
      exact h.of_ok hresult _

/-- A run adds to what a table holds the definitions that it has loaded into it, in order. -/
theorem Holds.run (h : s.Holds number accepted) (requests : List Request) :
    (s.run requests).1.Holds number (accepted ++ s.accepted number requests) := by
  induction requests generalizing s accepted with
  | nil =>
    rw [Session.accepted, List.append_nil]
    exact h
  | cons request rest ih =>
    have hrest := ih (h.perform request)
    rw [List.append_assoc] at hrest
    exact hrest

/-- A new table refines the list of the definitions that are loaded into it. Whatever a client does before and after,
every handle of the table sees at each position one class that is what the definition accepted there asks for, found by
its id, its name, its dispatch vector and in the list of classes, and nothing else; and each load was given the position
of its definition as id. -/
theorem newTable_refines_loads (s : Session) (requests : List Request) :
    let number := s.tables.length
    let started := (s.perform (.command .newTable)).1
    let final := (started.run requests).1
    let accepted := started.accepted number requests
    (s.perform (.command .newTable)).2.result = .ok (.made (.tableHandle s.handles.length)) ∧
      started.tableOf? s.handles.length = some number ∧
      (∀ (i : Nat) definition id, accepted[i]? = some (definition, id) → id = ⟨i⟩) ∧
      ∃ table, (∀ handle, final.tableOf? handle = some number → final.table? handle = some table) ∧
        final.tables[number]? = some table ∧ table.Refines final.heap (accepted.map Prod.fst) := by
  intro number started final accepted
  obtain ⟨table, htable, hrepresents, hids⟩ := (holds_newTable s).run requests
  refine ⟨rfl, ?_, hids, table, fun handle hhandle => ?_, htable, hrepresents.refines⟩
  · exact (congrArg Option.join List.getElem?_concat_length).trans Option.join_some
  · rw [table?, hhandle, Option.bind_some]
    exact htable

end ObjectModel.Session
