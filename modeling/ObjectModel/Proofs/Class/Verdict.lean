import ObjectModel.Proofs.Class.Table

/-!
# What a load comes to

Whether a table accepts a definition, and what it then says of the new class, follows from the definitions that it holds
and from the bound. Neither the heap nor the addresses that the table was given on it have any part in this.
-/

namespace ObjectModel

/-- What loading a definition behind others comes to. A class has the next position for an id, and is refused when there
is one of its name. -/
def ClassDefinition.verdict (limit : Nat) (accepted : List ClassDefinition) (definition : ClassDefinition) :
    Outcome TypeInfo :=
  (definition.check limit).andThen fun checked =>
    if definition.name ∈ accepted.map ClassDefinition.name then .fail (.duplicateClass checked.name)
    else
      let info : TypeInfo := ⟨checked.name, ⟨accepted.length⟩, definition.kind⟩
      .okWith info (.loadedClass info definition.interfaces.length)

/-- A checked definition has the bytes of its name and its kind. -/
theorem ClassDefinition.eq_of_check {limit : Nat} {definition : ClassDefinition} {checked : CheckedDefinition}
    (h : (definition.check limit).value = .ok checked) :
    checked.name.bytes = Utf8.bytesOf definition.name ∧ checked.kind = definition.kind := by
  obtain ⟨hname, -, -, -, hkind⟩ := check_eq_ok_iff.mp h
  exact ⟨(checkedName_eq_ok_iff.mp hname).2, hkind⟩

namespace Outcome

variable {α β γ : Type}

/-- A function applied after two operations is applied after the second. -/
theorem map_andThen (first : Outcome α) (next : α → Outcome β) (f : β → γ) :
    (first.andThen next).map f = first.andThen fun a => (next a).map f := by
  obtain ⟨value, events⟩ := first
  cases value with
  | error fault => rfl
  | ok a => rfl

/-- What follows an operation that succeeds goes on from its value, behind its events. -/
theorem andThen_of_ok {first : Outcome α} {a : α} (h : first.value = .ok a) (next : α → Outcome β) :
    first.andThen next = ⟨(next a).value, first.events ++ (next a).events⟩ := by
  rw [andThen, h]

/-- Nothing follows an operation that fails. -/
theorem andThen_of_error {first : Outcome α} {fault : Fault} (h : first.value = .error fault) (next : α → Outcome β) :
    first.andThen next = ⟨.error fault, first.events⟩ := by
  rw [andThen, h]

/-- What follows an operation matters only for the values that it gives. -/
theorem andThen_congr {first : Outcome α} {next other : α → Outcome β}
    (h : ∀ a, first.value = .ok a → next a = other a) : first.andThen next = first.andThen other := by
  obtain ⟨value, events⟩ := first
  cases value with
  | error fault => rfl
  | ok a => simp only [andThen, h a rfl]

end Outcome

namespace ClassTable.Represents

variable {heap : Heap} {table : ClassTable} {accepted : List ClassDefinition}

/-- There is a class of a name exactly when some definition has it. -/
theorem byName?_eq_none_iff (h : Represents heap table accepted) {name : CString} {text : String}
    (hname : name.bytes = Utf8.bytesOf text) :
    table.byName? name = none ↔ text ∉ accepted.map ClassDefinition.name := by
  constructor
  · intro hnone hmem
    obtain ⟨definition, hdefinition, rfl⟩ := List.mem_map.mp hmem
    obtain ⟨i, hi⟩ := List.mem_iff_getElem?.mp hdefinition
    obtain ⟨c, -, -, hfound, -⟩ := h.refines.found i definition hi
    cases (hfound name hname).symm.trans hnone
  · intro hnot
    refine h.byName?_eq_none fun definition hdefinition hbytes => hnot ?_
    rw [Utf8.bytesOf_injective (hname.symm.trans hbytes)]
    exact List.mem_map_of_mem hdefinition

/-- A table that holds some definitions decides about the next one as its list does. -/
theorem load_eq (h : Represents heap table accepted) (limit : Nat) (definition : ClassDefinition) :
    (table.load limit heap definition).map (fun loaded => loaded.newest.info) = definition.verdict limit accepted := by
  rw [load, Outcome.map_andThen, ClassDefinition.verdict]
  apply Outcome.andThen_congr
  intro checked hchecked
  obtain ⟨hname, hkind⟩ := ClassDefinition.eq_of_check hchecked
  have hfresh := h.byName?_eq_none_iff hname
  cases hlookup : table.byName? checked.name with
  | some c =>
    have hmem : definition.name ∈ accepted.map ClassDefinition.name := by
      by_contra hnot
      cases hlookup.symm.trans (hfresh.mpr hnot)
    rw [if_pos hmem]
    rfl
  | none =>
    rw [if_neg (hfresh.mp hlookup), ← hkind, ← h.size]
    rfl

/-- The events of a load are those that the list says. -/
theorem events_load (h : Represents heap table accepted) (limit : Nat) (definition : ClassDefinition) :
    (table.load limit heap definition).events = (definition.verdict limit accepted).events :=
  congrArg Logged.events (h.load_eq limit definition)

/-- Loading either fails as the list says, or succeeds as it says, and then the definition is behind the others. -/
theorem load_cases (h : Represents heap table accepted) (limit : Nat) (definition : ClassDefinition) :
    (∃ fault, (definition.verdict limit accepted).value = .error fault ∧
      (table.load limit heap definition).value = .error fault) ∨
    (∃ info loaded, (definition.verdict limit accepted).value = .ok info ∧
      (table.load limit heap definition).value = .ok loaded ∧ loaded.newest.info = info ∧
      Represents loaded.heap loaded.table (accepted ++ [definition])) := by
  rw [← h.load_eq limit definition, Outcome.map]
  cases hload : (table.load limit heap definition).value with
  | error fault => exact .inl ⟨fault, rfl, rfl⟩
  | ok loaded =>
    obtain ⟨checked, hchecked, hnew, rfl⟩ := load_eq_ok_iff.mp hload
    exact .inr ⟨_, _, rfl, rfl, rfl, h.insert hchecked hnew⟩

/-- A definition is loaded exactly when the list accepts it. -/
theorem exists_load_iff (h : Represents heap table accepted) {limit : Nat} {definition : ClassDefinition} :
    (∃ loaded, (table.load limit heap definition).value = .ok loaded) ↔
      (∃ checked, (definition.check limit).value = .ok checked) ∧ definition.name ∉ accepted.map ClassDefinition.name := by
  simp only [load_eq_ok_iff]
  constructor
  · rintro ⟨_, checked, hchecked, hnew, -⟩
    exact ⟨⟨checked, hchecked⟩, (h.byName?_eq_none_iff (ClassDefinition.eq_of_check hchecked).1).mp hnew⟩
  · rintro ⟨⟨checked, hchecked⟩, hnot⟩
    exact ⟨_, checked, hchecked, (h.byName?_eq_none_iff (ClassDefinition.eq_of_check hchecked).1).mpr hnot, rfl⟩

end ClassTable.Represents

end ObjectModel
