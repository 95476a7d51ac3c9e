import ObjectModel.Proofs.Class.Permuted
import ObjectModel.Proofs.Session.Order

/-!
# Loading with interfaces in another order

Two requests to load a class that differ in the order of its interfaces have the same effect as far as it can be told
without that order. The class gets one id or is refused for one kind of fault, and once it is loaded it is looked up alike.
-/

namespace ObjectModel.Session

open Response

/-- Two requests to load a definition through a handle come to the same, but for the order of the interfaces. -/
structure LoadsAlike (s : Session) (handle : Nat) (definition permuted : ClassDefinition) : Prop where
  /-- Both are granted with one id, or both are refused with faults of one kind. -/
  decided :
    (∃ id, (s.perform (.command (.load handle definition))).2.result = .ok (.loaded id) ∧
      (s.perform (.command (.load handle permuted))).2.result = .ok (.loaded id)) ∨
    ∃ fault other, (s.perform (.command (.load handle definition))).2.result = .error (.faulted fault) ∧
      (s.perform (.command (.load handle permuted))).2.result = .error (.faulted other) ∧ other.kind = fault.kind
  /-- The two classes that are then found by the id are looked up alike, whatever is requested afterwards on either
  side. -/
  lookups : ∀ id, (s.perform (.command (.load handle definition))).2.result = .ok (.loaded id) →
    ∃ c d, (s.perform (.command (.load handle definition))).1.classOf (.byId handle id) = .ok c ∧
      (s.perform (.command (.load handle permuted))).1.classOf (.byId handle id) = .ok d ∧
      ∀ requests others, c.LooksUpAlike ((s.perform (.command (.load handle definition))).1.run requests).1.heap
        ((s.perform (.command (.load handle permuted))).1.run others).1.heap d

variable {s : Session} {handle number : Nat} {table : ClassTable} {accepted : List ClassDefinition}
  {definition : ClassDefinition}

/-- A load is refused with a fault of the kind that follows from the definitions of the table. -/
theorem perform_load_of_refusal?_eq_some (hnumber : s.tableOf? handle = some number)
    (htable : s.tables[number]? = some table) (h : table.Represents s.heap accepted) {kind : FaultKind}
    (hrefused : definition.refusal? s.config.walkBound accepted = some kind) :
    ∃ fault, (s.perform (.command (.load handle definition))).2.result = .error (.faulted fault) ∧
      fault.kind = kind := by
  obtain ⟨hresponse, -⟩ := perform_load_of_represents hnumber htable h definition
  rw [ClassDefinition.refusal?_eq] at hrefused
  cases hverdict : (definition.verdict s.config.walkBound accepted).value with
  | ok info =>
    rw [hverdict] at hrefused
    cases hrefused
  | error fault =>
    rw [hverdict] at hrefused
    exact ⟨fault, hresponse ▸ result_ofOutcome_of_error hverdict _, Option.some.inj hrefused⟩

/-- A load that is not refused gives the number of classes as id, by which the class of the definition is found then. -/
theorem perform_load_of_refusal?_eq_none (hnumber : s.tableOf? handle = some number)
    (htable : s.tables[number]? = some table) (h : table.Represents s.heap accepted)
    (hgranted : definition.refusal? s.config.walkBound accepted = none) :
    (s.perform (.command (.load handle definition))).2.result = .ok (.loaded ⟨accepted.length⟩) ∧
      ∃ c, (s.perform (.command (.load handle definition))).1.classOf (.byId handle ⟨accepted.length⟩) = .ok c ∧
        c.Realizes (s.perform (.command (.load handle definition))).1.heap accepted.length definition := by
  have haccepted : definition.isAccepted s.config.walkBound accepted = true := by
    rw [ClassDefinition.isAccepted_eq_isNone_refusal?, hgranted]
    rfl
  obtain ⟨hresponse, -, hnextNumber, later, hlater, hrepresents⟩ :=
    perform_load_of_represents hnumber htable h definition
  rw [List.filter_singleton, haccepted, cond_true] at hrepresents
  obtain ⟨c, hc, hrealizes⟩ := hrepresents.exists_byId? (List.getElem?_concat_length ..)
  obtain ⟨info, hverdict, hid⟩ := ClassDefinition.verdict_of_isAccepted haccepted
  refine ⟨?_, c, ?_, hrealizes⟩
  · rw [hresponse]
    exact result_ofOutcome_eq_ok_iff.mpr ⟨info, hverdict, congrArg Answer.loaded hid⟩
  · exact classOf_eq_ok_iff.mpr ⟨number, origin?_eq_some_iff.mpr ⟨hnextNumber, later, hlater, hc⟩⟩

/-- Loading a class into a table of a run comes to the same in whatever order its interfaces are. -/
theorem load_permuted (requests : List Request) (htable : (start.run requests).1.table handle = .ok table)
    (name : String) (kind : TypeKind) {interfaces permuted : List String} (hperm : permuted.Perm interfaces) :
    (start.run requests).1.LoadsAlike handle ⟨name, kind, interfaces⟩ ⟨name, kind, permuted⟩ := by
  obtain ⟨number, hnumber, hfound⟩ := table_eq_ok_iff.mp htable
  obtain ⟨accepted, h⟩ := represented_run requests number table hfound
  generalize (start.run requests).1 = s at hnumber hfound h
  have hsame : ClassDefinition.refusal? s.config.walkBound accepted ⟨name, kind, permuted⟩ =
      ClassDefinition.refusal? s.config.walkBound accepted ⟨name, kind, interfaces⟩ :=
    ClassDefinition.refusal?_eq_of_perm rfl hperm
  cases hrefusal : ClassDefinition.refusal? s.config.walkBound accepted ⟨name, kind, interfaces⟩ with
  | some refusal =>
    obtain ⟨fault, hresult, hkind⟩ := perform_load_of_refusal?_eq_some hnumber hfound h hrefusal
    obtain ⟨other, hother, hotherKind⟩ :=
      perform_load_of_refusal?_eq_some hnumber hfound h (hsame.trans hrefusal)
    refine ⟨.inr ⟨fault, other, hresult, hother, hotherKind.trans hkind.symm⟩, fun id hid => ?_⟩
    cases hresult.symm.trans hid
  | none =>
    obtain ⟨hresult, c, hc, hrealizes⟩ := perform_load_of_refusal?_eq_none hnumber hfound h hrefusal
    obtain ⟨hother, d, hd, hotherRealizes⟩ :=
      perform_load_of_refusal?_eq_none hnumber hfound h (hsame.trans hrefusal)
    refine ⟨.inl ⟨_, hresult, hother⟩, fun id hid => ?_⟩
    cases hresult.symm.trans hid
    refine ⟨c, d, hc, hd, fun requests others => ?_⟩
    exact (hrealizes.mono (grows_run _ requests).heap).looksUpAlike (hotherRealizes.mono (grows_run _ others).heap) hperm

/-- Three interfaces forwards and backwards, and a list whose first offender is another one in each order. -/
theorem load_permuted_reverse :
    let requests := [.command .newTable, .command (.load 0 (.object "A"))]
    (∃ table, (start.run requests).1.table 0 = .ok table) ∧
      ["K", "J", "I"].Perm ["I", "J", "K"] ∧ ["\x00", "", "I"].Perm ["I", "", "\x00"] ∧
      (start.run requests).1.LoadsAlike 0 ⟨"B", .object, ["I", "J", "K"]⟩ ⟨"B", .object, ["K", "J", "I"]⟩ ∧
      (start.run requests).1.LoadsAlike 0 ⟨"B", .object, ["I", "", "\x00"]⟩ ⟨"B", .object, ["\x00", "", "I"]⟩ :=
  ⟨⟨_, rfl⟩, by decide, by decide, load_permuted _ rfl "B" .object (by decide),
    load_permuted _ rfl "B" .object (by decide)⟩

end ObjectModel.Session
