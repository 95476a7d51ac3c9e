import ObjectModel.Proofs.Heap.Link
import ObjectModel.Proofs.Heap.Search

/-!
# Searching a list of known names

On a list that has exactly certain names a bounded search is decided by those that the bound admits: it finds them, and
otherwise it has an answer just when the bound admits all names.
-/

namespace ObjectModel.Heap

variable {heap : Heap} {names : List CString} {position : Position}

/-- The name at each step is the one at that position among the names of the list. -/
theorem HasNames.nameAfter_eq (h : heap.HasNames names position) (steps : Nat) :
    heap.nameAfter position steps = names[steps]? := by
  induction names generalizing position steps with
  | nil =>
    cases h
    rw [nameAfter_of_end rfl, List.getElem?_nil]
  | cons name rest ih =>
    obtain ⟨next, hnode, hrest⟩ := h
    cases steps with
    | zero => exact nameAfter_zero hnode
    | succ steps => exact (nameAfter_succ hnode steps).trans (ih hrest steps)

/-- A bounded search looks through the names that the bound admits, and has no answer when there are more. -/
theorem HasNames.findWithin_eq (h : heap.HasNames names position) (name : CString) (limit : Nat) :
    heap.findWithin name limit position =
      if name ∈ names.take limit then some true else if limit < names.length then none else some false := by
  induction names generalizing position limit with
  | nil =>
    cases h
    have hend : heap.nodeAt none = none := rfl
    simp [findWithin_of_end hend]
  | cons other rest ih =>
    obtain ⟨next, hnode, hrest⟩ := h
    cases limit with
    | zero => simp [findWithin, hnode]
    | succ limit =>
      rw [findWithin_of_node hnode, ih hrest]
      by_cases heq : other = name
      · simp [heq]
      · simp [heq, Ne.symm heq]

/-- On a list of known names a bounded search is decided by where the name is first. -/
theorem HasNames.findWithin_eq_idxOf (h : heap.HasNames names position) (name : CString) (limit : Nat) :
    heap.findWithin name limit position =
      if name ∈ names ∧ names.idxOf name < limit then some true
      else if names.length ≤ limit then some false
      else none := by
  have htake : name ∈ names.take limit ↔ name ∈ names ∧ names.idxOf name < limit := by
    constructor
    · intro hmem
      have hname := List.mem_of_mem_take hmem
      exact ⟨hname, (List.mem_take_iff_idxOf_lt hname).mp hmem⟩
    · rintro ⟨hname, hlt⟩
      exact (List.mem_take_iff_idxOf_lt hname).mpr hlt
  rw [h.findWithin_eq]
  simp only [htake, ← Nat.not_lt, ite_not]

/-- A search within a bound that admits all names looks through all of them. -/
theorem HasNames.findWithin_of_le (h : heap.HasNames names position) (name : CString) {limit : Nat}
    (hlimit : names.length ≤ limit) : heap.findWithin name limit position = some (decide (name ∈ names)) := by
  rw [h.findWithin_eq, List.take_of_length_le hlimit, if_neg (Nat.not_lt.mpr hlimit)]
  split
  · next hmem => rw [decide_eq_true hmem]
  · next hmem => rw [decide_eq_false hmem]

/-- A search without a bound looks through all names. -/
theorem HasNames.find_eq (h : heap.HasNames names position) (name : CString) :
    heap.find name position = some (decide (name ∈ names)) :=
  h.findWithin_of_le name h.length_le

end ObjectModel.Heap
