import Mathlib.Combinatorics.Pigeonhole
import ObjectModel.Heap.Walk

/-!
# Where an interface list leads

A walk of as many steps as the heap has nodes has met some node twice, or the list has ended. So the nodes of a list are
all met within that many steps, and a list that has not ended by then never ends.
-/

namespace ObjectModel.Heap

variable {heap : Heap} {position : Position} {name : CString}

/-- Some node of the list from a place on has the name. -/
def Lists (heap : Heap) (position : Position) (name : CString) : Prop :=
  ∃ steps, heap.nameAfter position steps = some name

/-- The list from a place on comes to its end. -/
def Ends (heap : Heap) (position : Position) : Prop :=
  ∃ steps, heap.advanceBy steps position = none

/-- Past the end there is no step. -/
@[simp] theorem advanceBy_end (heap : Heap) (steps : Nat) : heap.advanceBy steps none = none := by
  cases steps <;> rfl

/-- Steps from a node go on from its successor. -/
theorem advanceBy_of_node {node : InterfaceNode} (h : heap.nodeAt position = some node) (steps : Nat) :
    heap.advanceBy (steps + 1) position = heap.advanceBy steps node.next := by
  rw [advanceBy, h]

/-- Steps in two parts. -/
theorem advanceBy_add (heap : Heap) (first second : Nat) (position : Position) :
    heap.advanceBy (first + second) position = heap.advanceBy second (heap.advanceBy first position) := by
  induction first generalizing position with
  | zero => rw [Nat.zero_add, advanceBy]
  | succ first ih =>
    rw [Nat.add_right_comm, advanceBy, advanceBy]
    split
    · rw [advanceBy_end]
    · exact ih _

/-- A step from a place leads nowhere when there is no node. -/
theorem advanceBy_succ_of_none {steps : Nat} (h : heap.nodeAt (heap.advanceBy steps position) = none) :
    heap.advanceBy (steps + 1) position = none := by
  rw [advanceBy_add, advanceBy, h]

/-- A walk that is at a node was at a node all the way. -/
theorem isSome_nodeAt_of_le {steps later : Nat} (hle : steps ≤ later)
    (h : (heap.nodeAt (heap.advanceBy later position)).isSome) :
    (heap.nodeAt (heap.advanceBy steps position)).isSome := by
  rcases Nat.eq_or_lt_of_le hle with rfl | hlt
  · exact h
  · rw [Option.isSome_iff_ne_none]
    intro hnone
    have hend : heap.advanceBy later position = none := by
      rw [show later = steps + 1 + (later - (steps + 1)) by omega, advanceBy_add, advanceBy_succ_of_none hnone,
        advanceBy_end]
    rw [hend] at h
    cases h

/-- A place with a node is an address below the number of nodes. -/
theorem eq_some_of_isSome_nodeAt (h : (heap.nodeAt position).isSome) :
    ∃ id, position = some id ∧ id.index < heap.nodes.size := by
  cases position with
  | none => cases h
  | some id =>
    refine ⟨id, rfl, Nat.lt_of_not_le fun hle => ?_⟩
    rw [nodeAt, Option.bind_some, node?, Array.getElem?_eq_none hle] at h
    cases h

/-- A walk that is at a node after as many steps as there are nodes has been at some place twice. -/
theorem exists_repeat (h : (heap.nodeAt (heap.advanceBy heap.nodes.size position)).isSome) :
    ∃ i j, i < j ∧ j ≤ heap.nodes.size ∧ heap.advanceBy i position = heap.advanceBy j position := by
  let address (steps : Nat) : Nat := (heap.advanceBy steps position).elim 0 (·.index)
  have hnode : ∀ steps ≤ heap.nodes.size,
      ∃ id, heap.advanceBy steps position = some id ∧ id.index < heap.nodes.size := fun steps hle =>
    eq_some_of_isSome_nodeAt (isSome_nodeAt_of_le hle h)
  have hmaps : ∀ steps ∈ Finset.range (heap.nodes.size + 1), address steps ∈ Finset.range heap.nodes.size := by
    intro steps hsteps
    obtain ⟨id, hid, hlt⟩ := hnode steps (Nat.le_of_lt_succ (Finset.mem_range.mp hsteps))
    simp only [address, hid, Option.elim_some]
    exact Finset.mem_range.mpr hlt
  obtain ⟨i, hi, j, hj, hne, hsame⟩ := Finset.exists_ne_map_eq_of_card_lt_of_maps_to (by simp) hmaps
  rw [Finset.mem_range, Nat.lt_succ_iff] at hi hj
  have hplace : heap.advanceBy i position = heap.advanceBy j position := by
    obtain ⟨a, ha, -⟩ := hnode i hi
    obtain ⟨b, hb, -⟩ := hnode j hj
    simp only [address, ha, hb, Option.elim_some] at hsame
    rw [ha, hb, show a = b by cases a; cases b; exact congrArg NodeId.mk hsame]
  rcases Nat.lt_or_gt_of_ne hne with hlt | hlt
  · exact ⟨i, j, hlt, hj, hplace⟩
  · exact ⟨j, i, hlt, hi, hplace.symm⟩

/-- A walk goes on from a place that it has come to twice as it did the first time. -/
theorem advanceBy_sub_of_repeat {i j steps : Nat} (hij : i < j) (hle : j ≤ steps)
    (h : heap.advanceBy i position = heap.advanceBy j position) :
    heap.advanceBy (steps - (j - i)) position = heap.advanceBy steps position := by
  obtain ⟨rest, rfl⟩ := Nat.exists_eq_add_of_le hle
  rw [show j + rest - (j - i) = i + rest by omega, advanceBy_add, advanceBy_add, h]

/-- A walk is at a place that it first came to in fewer steps than there are nodes, or at the end. -/
theorem exists_early {steps : Nat} (h : (heap.nodeAt (heap.advanceBy steps position)).isSome) :
    ∃ early < heap.nodes.size, heap.advanceBy early position = heap.advanceBy steps position := by
  induction steps using Nat.strongRecOn with
  | ind steps ih =>
    rcases Nat.lt_or_ge steps heap.nodes.size with hlt | hge
    · exact ⟨steps, hlt, rfl⟩
    · obtain ⟨i, j, hij, hj, hsame⟩ := exists_repeat (isSome_nodeAt_of_le hge h)
      have hback := advanceBy_sub_of_repeat hij (hj.trans hge) hsame
      obtain ⟨early, hearly, heq⟩ := ih (steps - (j - i)) (by omega) (hback.symm ▸ h)
      exact ⟨early, hearly, heq.trans hback⟩

/-- A list that has not ended after as many steps as there are nodes never ends. -/
theorem isSome_nodeAt_of_size (h : (heap.nodeAt (heap.advanceBy heap.nodes.size position)).isSome) (steps : Nat) :
    (heap.nodeAt (heap.advanceBy steps position)).isSome := by
  obtain ⟨i, j, hij, hj, hsame⟩ := exists_repeat h
  induction steps using Nat.strongRecOn with
  | ind steps ih =>
    rcases Nat.lt_or_ge steps j with hlt | hge
    · exact isSome_nodeAt_of_le (hlt.le.trans hj) h
    · rw [← advanceBy_sub_of_repeat hij hge hsame]
      exact ih _ (by omega)

/-- A list ends exactly when a walk of at least as many steps as there are nodes has come to its end. -/
theorem ends_iff {limit : Nat} (hlimit : heap.nodes.size ≤ limit) :
    heap.Ends position ↔ heap.nodeAt (heap.advanceBy limit position) = none := by
  constructor
  · rintro ⟨steps, hend⟩
    by_contra hlive
    have hsteps := isSome_nodeAt_of_size (isSome_nodeAt_of_le hlimit (Option.isSome_iff_ne_none.mpr hlive)) steps
    rw [hend] at hsteps
    cases hsteps
  · exact fun hend => ⟨limit + 1, advanceBy_succ_of_none hend⟩

/-- A name on a list is met in fewer steps than any number that is at least that of the nodes. -/
theorem lists_iff {limit : Nat} (hlimit : heap.nodes.size ≤ limit) :
    heap.Lists position name ↔ ∃ steps < limit, heap.nameAfter position steps = some name := by
  constructor
  · rintro ⟨steps, hname⟩
    obtain ⟨node, hnode, -⟩ := Option.map_eq_some_iff.mp hname
    obtain ⟨early, hearly, hplace⟩ := exists_early (Option.isSome_of_eq_some hnode)
    refine ⟨early, hearly.trans_le hlimit, ?_⟩
    rw [nameAfter, hplace]
    exact hname
  · rintro ⟨steps, -, hname⟩
    exact ⟨steps, hname⟩

end ObjectModel.Heap
