import ObjectModel.Proofs.Heap.Growth
import ObjectModel.Proofs.Heap.Walk

/-!
# Lists of known names

The list of a linked class has the names that it was linked with, in order, and then ends. It keeps them however the
heap grows, and reading it yields them.
-/

namespace ObjectModel.Heap

/-- The list from a place on has exactly the given names, in order. -/
def HasNames (heap : Heap) : List CString → Position → Prop
  | [], position => position = none
  | name :: rest, position => ∃ next, heap.nodeAt position = some ⟨name, next⟩ ∧ heap.HasNames rest next

variable {before after heap : Heap} {names : List CString} {position : Position}

/-- A list keeps its names when the heap grows. -/
theorem HasNames.mono (h : before.HasNames names position) (hgrows : before.Grows after) :
    after.HasNames names position := by
  induction names generalizing position with
  | nil => exact h
  | cons name rest ih =>
    obtain ⟨next, hnode, hrest⟩ := h
    exact ⟨next, hgrows.nodeAt hnode, ih hrest⟩

/-- A list without names is past its end, and no other list is. -/
theorem HasNames.eq_none_iff (h : heap.HasNames names position) : position = none ↔ names = [] := by
  cases names with
  | nil => exact iff_of_true h rfl
  | cons name rest =>
    obtain ⟨next, hnode, -⟩ := h
    refine iff_of_false (fun hend => ?_) (List.cons_ne_nil name rest)
    rw [hend] at hnode
    cases hnode

/-- A list ends after its names. -/
theorem HasNames.advanceBy_length (h : heap.HasNames names position) :
    heap.advanceBy names.length position = none := by
  induction names generalizing position with
  | nil => exact h
  | cons name rest ih =>
    obtain ⟨next, hnode, hrest⟩ := h
    exact (advanceBy_of_node hnode _).trans (ih hrest)

/-- A list is at a node as long as there are names. -/
theorem HasNames.isSome_nodeAt (h : heap.HasNames names position) {steps : Nat} (hsteps : steps < names.length) :
    (heap.nodeAt (heap.advanceBy steps position)).isSome := by
  induction names generalizing position steps with
  | nil => cases hsteps
  | cons name rest ih =>
    obtain ⟨next, hnode, hrest⟩ := h
    cases steps with
    | zero => exact Option.isSome_of_eq_some hnode
    | succ steps =>
      rw [advanceBy_of_node hnode]
      exact ih hrest (Nat.lt_of_succ_lt_succ hsteps)

/-- A list that ends has no more names than there are nodes. -/
theorem HasNames.length_le (h : heap.HasNames names position) : names.length ≤ heap.nodes.size := by
  apply Nat.le_of_not_lt
  intro hlt
  have hlive := isSome_nodeAt_of_size (h.isSome_nodeAt hlt) names.length
  rw [h.advanceBy_length] at hlive
  cases hlive

/-- Reading at least as many nodes as there are names yields the names. -/
theorem HasNames.names_eq (h : heap.HasNames names position) {limit : Nat} (hlimit : names.length ≤ limit) :
    heap.names limit position = names := by
  induction names generalizing position limit with
  | nil =>
    cases h
    exact names_of_end rfl limit
  | cons name rest ih =>
    obtain ⟨next, hnode, hrest⟩ := h
    obtain ⟨limit, rfl⟩ := Nat.exists_eq_add_of_le' hlimit
    rw [List.length_cons, ← Nat.add_assoc, names_of_node hnode, ih hrest (Nat.le_add_left _ limit)]

/-- The place of the node at a position of a chain, or the end behind the last one. -/
def linkPlace (base count i : Nat) : Position :=
  if i < count then some ⟨base + i⟩ else none

/-- From any position on, an added chain has the names from that position on. -/
theorem hasNames_drop_addNodes (heap : Heap) (names : List CString) (i : Nat) :
    (heap.addNodes (InterfaceNode.chain heap.nodes.size names)).HasNames (names.drop i)
      (linkPlace heap.nodes.size names.length i) := by
  induction hrest : names.drop i generalizing i with
  | nil => exact if_neg (Nat.not_lt.mpr (List.drop_eq_nil_iff.mp hrest))
  | cons name rest ih =>
    have hname : names[i]? = some name := by
      rw [← List.head?_drop, hrest, List.head?_cons]
    have hlt : i < names.length := (List.getElem?_eq_some_iff.mp hname).1
    refine ⟨linkPlace heap.nodes.size names.length (i + 1), ?_, ih (i + 1) ?_⟩
    · rw [linkPlace, if_pos hlt, nodeAt, Option.bind_some, node?, addNodes,
        Array.getElem?_append_right (Nat.le_add_right _ i), Nat.add_sub_cancel_left, List.getElem?_toArray,
        InterfaceNode.getElem?_chain, hname]
      rfl
    · rw [← List.tail_drop, hrest, List.tail_cons]

/-- A linked class has its dispatch vector at the address given for it. -/
theorem vector_link (heap : Heap) (names : List CString) (metadata : Metadata) :
    (heap.link names metadata).1.vector (heap.link names metadata).2 =
      ⟨linkPlace heap.nodes.size names.length 0, metadata⟩ := by
  rw [link, vector_addVector]
  cases names <;> rfl

/-- In each slot of a linked class is the node of the name at that position, which leads to the slot behind it. -/
theorem nodeAt_link (heap : Heap) (names : List CString) (metadata : Metadata) (i : Nat) :
    (heap.link names metadata).1.nodeAt (linkPlace heap.nodes.size names.length i) =
      names[i]?.map fun name => ⟨name, linkPlace heap.nodes.size names.length (i + 1)⟩ := by
  by_cases hlt : i < names.length
  · rw [linkPlace, if_pos hlt, nodeAt, Option.bind_some, node?, link, addVector, addNodes,
      Array.getElem?_append_right (Nat.le_add_right _ i), Nat.add_sub_cancel_left, List.getElem?_toArray,
      InterfaceNode.getElem?_chain]
    rfl
  · rw [linkPlace, if_neg hlt, List.getElem?_eq_none (Nat.le_of_not_lt hlt)]
    rfl

/-- Steps from the head of a linked class lead through its slots in order, and then to the end. -/
theorem advanceBy_link (heap : Heap) (names : List CString) (metadata : Metadata) (i : Nat) :
    (heap.link names metadata).1.advanceBy i (linkPlace heap.nodes.size names.length 0) =
      linkPlace heap.nodes.size names.length i := by
  induction i with
  | zero => rfl
  | succ i ih =>
    have hnode := nodeAt_link heap names metadata i
    by_cases hlt : i < names.length
    · rw [List.getElem?_eq_getElem hlt, Option.map_some] at hnode
      rw [advanceBy_add, ih, advanceBy_of_node hnode, advanceBy]
    · rw [List.getElem?_eq_none (Nat.le_of_not_lt hlt), Option.map_none, ← ih] at hnode
      rw [advanceBy_succ_of_none hnode, linkPlace, if_neg fun h => hlt (Nat.lt_of_succ_lt h)]

/-- The list of a linked class has its names. -/
theorem hasNames_link (heap : Heap) (names : List CString) (metadata : Metadata) :
    ∃ head, (heap.link names metadata).1.vectors[(heap.link names metadata).2.index]? = some ⟨head, metadata⟩ ∧
      (heap.link names metadata).1.HasNames names head := by
  refine ⟨linkPlace heap.nodes.size names.length 0, ?_, ?_⟩
  · rw [link, addVector, Array.getElem?_push_size, linkPlace]
    cases names <;> rfl
  · exact (heap.hasNames_drop_addNodes names 0).mono (grows_addVector _ _)

end ObjectModel.Heap
