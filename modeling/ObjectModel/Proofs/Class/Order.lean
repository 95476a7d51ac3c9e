import ObjectModel.Proofs.Class.Alike

/-!
# Definitions in another order

Whether a definition is accepted behind others depends on them only through the presence of its name, and if it is not,
so does the fault. Tables that hold the same definitions in whatever order find by each name classes of which the same can
be seen, but for the ids.
-/

namespace ObjectModel

/-- Whether a definition is accepted behind others. -/
def ClassDefinition.isAccepted (limit : Nat) (accepted : List ClassDefinition) (definition : ClassDefinition) : Bool :=
  (definition.verdict limit accepted).value.toOption.isSome

namespace ClassDefinition

variable {limit : Nat} {accepted others : List ClassDefinition} {definition : ClassDefinition}

/-- A definition is accepted exactly when it passes its checks and none of the others has its name. -/
theorem isAccepted_iff : definition.isAccepted limit accepted = true ↔
    (∃ checked, (definition.check limit).value = .ok checked) ∧ definition.name ∉ accepted.map name := by
  rw [isAccepted, verdict, Outcome.andThen]
  cases (definition.check limit).value with
  | error fault => simp [Except.toOption]
  | ok checked =>
    dsimp only
    split
    · next hmem => simp [hmem, Outcome.fail, Except.toOption]
    · next hnot => simp [hnot, Outcome.okWith, Except.toOption]

/-- Others that do not have its name make no difference to whether a definition is accepted. -/
theorem isAccepted_append (hfresh : definition.name ∉ others.map name) :
    definition.isAccepted limit (accepted ++ others) = definition.isAccepted limit accepted := by
  rw [Bool.eq_iff_iff, isAccepted_iff, isAccepted_iff, List.map_append, List.mem_append, or_iff_left hfresh]

/-- A definition that is accepted has the number of the others for an id. -/
theorem verdict_of_isAccepted (h : definition.isAccepted limit accepted = true) :
    ∃ info, (definition.verdict limit accepted).value = .ok info ∧ info.id = ⟨accepted.length⟩ := by
  obtain ⟨⟨checked, hchecked⟩, hnot⟩ := isAccepted_iff.mp h
  rw [verdict, Outcome.andThen_of_ok hchecked, if_neg hnot]
  exact ⟨_, rfl, rfl⟩

/-- A definition that is not accepted has a fault. -/
theorem verdict_of_not_isAccepted (h : definition.isAccepted limit accepted = false) :
    ∃ fault, (definition.verdict limit accepted).value = .error fault := by
  rw [isAccepted] at h
  cases hvalue : (definition.verdict limit accepted).value with
  | error fault => exact ⟨fault, rfl⟩
  | ok info =>
    rw [hvalue] at h
    cases h

/-- A definition that is not accepted is refused in the same way when there are more others. -/
theorem verdict_append (h : definition.isAccepted limit accepted = false) :
    definition.verdict limit (accepted ++ others) = definition.verdict limit accepted := by
  rw [verdict, verdict]
  apply Outcome.andThen_congr
  intro checked hchecked
  have hmem : definition.name ∈ accepted.map name := by
    by_contra hnot
    cases h.symm.trans (isAccepted_iff.mpr ⟨⟨checked, hchecked⟩, hnot⟩)
  rw [if_pos hmem, if_pos (List.map_append ▸ List.mem_append_left _ hmem)]

end ClassDefinition

namespace ClassTable.Represents

variable {heap otherHeap : Heap} {table other : ClassTable} {accepted others : List ClassDefinition}

/-- A class found by a text realizes the definition at its position, which has that text for a name. -/
theorem of_byString? (h : Represents heap table accepted) {text : String} {c : LoadedClass}
    (hc : table.byString? text = some c) : ∃ definition, accepted[c.info.id.index]? = some definition ∧
      definition.name = text ∧ c.Realizes heap c.info.id.index definition := by
  obtain ⟨name, hname, hfound⟩ := Option.bind_eq_some_iff.mp hc
  obtain ⟨rfl, -⟩ := h.of_byName? hfound
  obtain ⟨-, definition, hdefinition, hrealizes⟩ := h.of_mem (mem_classes_of_byName? hfound)
  have hbytes := CString.ofString?_eq_some_iff.mp hname
  exact ⟨definition, hdefinition, Utf8.bytesOf_injective (hrealizes.name.symm.trans hbytes), hrealizes⟩

/-- A class found by a text in a table is found in every other one that holds the same definitions and perhaps more, and
the same can be seen of both but the ids. -/
theorem exists_byString?_of_subset (h : Represents heap table accepted) (hother : Represents otherHeap other others)
    (hsubset : accepted ⊆ others) {text : String} {c : LoadedClass} (hc : table.byString? text = some c) (id : ClassId) :
    ∃ d, other.byString? text = some d ∧ (d.image otherHeap).numbered id = (c.image heap).numbered id := by
  obtain ⟨definition, hdefinition, rfl, hrealizes⟩ := h.of_byString? hc
  obtain ⟨j, hj⟩ := List.mem_iff_getElem?.mp (hsubset (List.mem_of_getElem? hdefinition))
  obtain ⟨d, hd, hname, -⟩ := hother.refines.found j definition hj
  obtain ⟨_, hsame, hotherRealizes⟩ := hother.exists_byId? hj
  cases hd.symm.trans hsame
  exact ⟨d, hname, hotherRealizes.numbered_image_eq hrealizes id⟩

/-- Tables that hold the same definitions in whatever order find by each text classes of which the same can be seen
but the ids, or both find nothing. -/
theorem byString?_alike (h : Represents heap table accepted) (hother : Represents otherHeap other others)
    (hsame : accepted.Perm others) (text : String) (id : ClassId) :
    (table.byString? text).map (fun c => (c.image heap).numbered id) =
      (other.byString? text).map fun c => (c.image otherHeap).numbered id := by
  cases hc : table.byString? text with
  | some c =>
    obtain ⟨d, hd, himage⟩ := h.exists_byString?_of_subset hother hsame.subset hc id
    rw [hd, Option.map_some, Option.map_some, himage]
  | none =>
    cases hd : other.byString? text with
    | none => rfl
    | some d =>
      obtain ⟨c, hfound, -⟩ := hother.exists_byString?_of_subset h hsame.symm.subset hd id
      cases hc.symm.trans hfound

end ClassTable.Represents

end ObjectModel
