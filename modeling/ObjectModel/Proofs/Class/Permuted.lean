import ObjectModel.Proofs.Class.Decision
import ObjectModel.Proofs.Class.Interfaces
import ObjectModel.Proofs.Class.Order

/-!
# Interfaces in another order

The kind of fault for which a definition is refused can be told without the order of its interfaces, though the first
offender, which the fault names, cannot. A class is looked up alike whatever the order in which its interfaces were
declared, as long as the bound of a lookup admits them all.
-/

namespace ObjectModel

/-- Whether a class or an interface can have a name can be computed. -/
instance : DecidablePred IsName :=
  fun name => inferInstanceAs (Decidable (name ≠ "" ∧ 0 ∉ Utf8.bytesOf name))

/-- The kind of fault for which a definition behind others is refused, if it is refused. -/
def ClassDefinition.refusal? (limit : Nat) (accepted : List ClassDefinition) (definition : ClassDefinition) :
    Option FaultKind :=
  if ¬IsName definition.name then some .invalidArgument
  else if limit < definition.interfaces.length ∨ ¬definition.interfaces.Nodup then some .malformedMetadata
  else if ∃ name ∈ definition.interfaces, ¬IsName name then some .invalidArgument
  else if definition.name ∈ accepted.map ClassDefinition.name then some .duplicateClass
  else none

namespace ClassDefinition

variable {limit : Nat} {accepted : List ClassDefinition} {definition permuted : ClassDefinition} {fault : Fault}

/-- Definitions that differ in the order of their interfaces are refused for faults of one kind. -/
theorem refusal?_eq_of_perm (hname : permuted.name = definition.name)
    (hperm : permuted.interfaces.Perm definition.interfaces) :
    permuted.refusal? limit accepted = definition.refusal? limit accepted := by
  simp only [refusal?, hname, hperm.length_eq, hperm.nodup_iff, hperm.mem_iff]

/-- A definition that fails its checks is refused for the kind of its fault. -/
theorem refusal?_of_check_error (h : (definition.check limit).value = .error fault) :
    definition.refusal? limit accepted = some fault.kind := by
  cases check_eq_error_iff.mp h with
  | @name role name first =>
    rw [kind_nameFault, refusal?]
    cases role with
    | ofClass =>
      obtain ⟨rfl, hname⟩ := first
      exact if_pos hname
    | ofInterface =>
      obtain ⟨hname, hfew, hnodup, ahead, behind, hsplit, -, himproper⟩ := first
      have hmem : name ∈ definition.interfaces := hsplit ▸ List.mem_append_right _ List.mem_cons_self
      rw [if_neg (not_not_intro hname), if_neg (not_or_intro (Nat.not_lt.mpr hfew) (not_not_intro hnodup))]
      exact if_pos ⟨name, hmem, himproper⟩
  | tooMany proper many =>
    rw [refusal?, if_neg (not_not_intro ((exists_checkedName_iff _).mp ⟨_, proper⟩))]
    exact if_pos (.inl many)
  | @repeated className ahead behind name proper few interfaces distinct again =>
    have hnodup : ¬definition.interfaces.Nodup := by
      rw [interfaces, List.nodup_append]
      exact fun hall => hall.2.2 name again name List.mem_cons_self rfl
    rw [refusal?, if_neg (not_not_intro ((exists_checkedName_iff _).mp ⟨_, proper⟩))]
    exact if_pos (.inr hnodup)

/-- A definition that passes its checks is refused exactly when one ahead of it has its name. -/
theorem refusal?_of_check_ok {checked : CheckedDefinition} (h : (definition.check limit).value = .ok checked) :
    definition.refusal? limit accepted =
      if definition.name ∈ accepted.map ClassDefinition.name then some .duplicateClass else none := by
  obtain ⟨hname, hfew, hnodup, hnames⟩ := exists_check_iff.mp ⟨checked, h⟩
  rw [refusal?, if_neg (not_not_intro hname), if_neg (not_or_intro (Nat.not_lt.mpr hfew) (not_not_intro hnodup)),
    if_neg (by simpa using hnames)]

/-- What loading a definition comes to, up to what the fault tells beside its kind. -/
theorem refusal?_eq : definition.refusal? limit accepted =
    match (definition.verdict limit accepted).value with
    | .ok _ => none
    | .error fault => some fault.kind := by
  rw [verdict]
  cases hcheck : (definition.check limit).value with
  | error fault => rw [Outcome.andThen_of_error hcheck, refusal?_of_check_error hcheck]
  | ok checked =>
    rw [Outcome.andThen_of_ok hcheck, refusal?_of_check_ok hcheck]
    split <;> rfl

/-- A definition is accepted exactly when there is no kind of fault for which it is refused. -/
theorem isAccepted_eq_isNone_refusal? :
    definition.isAccepted limit accepted = (definition.refusal? limit accepted).isNone := by
  rw [isAccepted, refusal?_eq]
  cases (definition.verdict limit accepted).value <;> rfl

end ClassDefinition

/-- Two classes, each on its heap, count as many interfaces and answer every lookup alike: by a search without a bound,
which comes to an end, and by a checked read within any bound that admits the interfaces. -/
structure LoadedClass.LooksUpAlike (heap otherHeap : Heap) (c d : LoadedClass) : Prop where
  count : d.interfaceCount = c.interfaceCount
  find : ∀ name, (heap.find name (c.head heap)).isSome ∧
    otherHeap.find name (d.head otherHeap) = heap.find name (c.head heap)
  implements : ∀ name, d.implements otherHeap name = c.implements heap name
  access : ∀ name limit, c.interfaceCount ≤ limit →
    (Access.implementsInterface heap limit (some c.vector) name).value = .ok (c.implements heap name) ∧
      Access.implementsInterface otherHeap limit (some d.vector) name =
        Access.implementsInterface heap limit (some c.vector) name

namespace LoadedClass.Realizes

variable {heap otherHeap : Heap} {c d : LoadedClass} {i j : Nat} {definition permuted : ClassDefinition}

/-- A checked read within a bound that admits the interfaces answers as the class does. -/
theorem implementsInterface_of_le (h : c.Realizes heap i definition) (name : CString) {limit : Nat}
    (hlimit : c.interfaceCount ≤ limit) : Access.implementsInterface heap limit (some c.vector) name =
      .okWith (c.implements heap name) (.vectorLookup name (c.implements heap name)) := by
  have hsearch : heap.findWithin name limit (c.head heap) = some (c.implements heap name) := by
    rw [h.hasNames.findWithin_of_le name (h.length_interfaces.symm ▸ hlimit), ← h.hasNames.find_eq, h.find_eq]
  rw [Access.implementsInterface, ← LoadedClass.head, hsearch]

/-- Classes whose definitions list the same interfaces, in any order, implement the same. -/
theorem implements_eq_of_perm (h : c.Realizes heap i definition) (hother : d.Realizes otherHeap j permuted)
    (hperm : permuted.interfaces.Perm definition.interfaces) (name : CString) :
    d.implements otherHeap name = c.implements heap name := by
  rw [Bool.eq_iff_iff, h.implements_iff, hother.implements_iff, h.mem_interfaces_iff, hother.mem_interfaces_iff]
  exact (hperm.map Utf8.bytesOf).mem_iff

/-- Classes whose definitions list the same interfaces, in any order, are looked up alike. -/
theorem looksUpAlike (h : c.Realizes heap i definition) (hother : d.Realizes otherHeap j permuted)
    (hperm : permuted.interfaces.Perm definition.interfaces) : c.LooksUpAlike heap otherHeap d := by
  have hcount : d.interfaceCount = c.interfaceCount := by
    rw [h.interfaceCount, hother.interfaceCount, hperm.length_eq]
  have himplements := h.implements_eq_of_perm hother hperm
  refine ⟨hcount, fun name => ?_, himplements, fun name limit hlimit => ?_⟩
  · rw [h.find_eq, hother.find_eq, himplements]
    exact ⟨rfl, rfl⟩
  · rw [h.implementsInterface_of_le name hlimit, hother.implementsInterface_of_le name (hcount ▸ hlimit), himplements]
    exact ⟨rfl, rfl⟩

end LoadedClass.Realizes

end ObjectModel
