import ObjectModel.Proofs.Heap.Growth
import ObjectModel.Proofs.Heap.Search

/-!
# Closed heaps

On a closed heap every node address that a record stores leads to a node. From such a heap no list can come to see a
node that is added later, so a list reads the same however the heap grows, also where it runs in a circle.
-/

namespace ObjectModel.Heap

/-- A place in a list that is at a node of the heap or past the end. -/
def Covers (heap : Heap) (position : Position) : Prop :=
  ∀ id, position = some id → id.index < heap.nodes.size

/-- Every record leads to nodes that are there. -/
structure Closed (heap : Heap) : Prop where
  next : ∀ (i : Nat) node, heap.nodes[i]? = some node → heap.Covers node.next
  head : ∀ (i : Nat) vector, heap.vectors[i]? = some vector → heap.Covers vector.head

variable {before after heap : Heap} {position : Position} {name : CString}

section Covers

/-- The end of a list is covered. -/
theorem covers_none (heap : Heap) : heap.Covers none := fun _ h => nomatch h

/-- A place that is covered stays so. -/
theorem Covers.mono (h : before.Covers position) (hgrows : before.Grows after) : after.Covers position :=
  fun id hid => (h id hid).trans_le hgrows.size_nodes

end Covers

section Reading

/-- At a covered place there is the same node after growing, or still none. -/
theorem Covers.nodeAt_eq (h : before.Covers position) (hgrows : before.Grows after) :
    after.nodeAt position = before.nodeAt position := by
  cases position with
  | none => rfl
  | some id =>
    have hnode := Array.getElem?_eq_getElem (h id rfl)
    rw [nodeAt, nodeAt, Option.bind_some, Option.bind_some, node?, node?, hgrows.nodes id.index _ hnode, hnode]

/-- The successor of a node on a closed heap is covered. -/
theorem Closed.covers_next (h : heap.Closed) {node : InterfaceNode} (hnode : heap.nodeAt position = some node) :
    heap.Covers node.next := by
  obtain ⟨id, -, hid⟩ := Option.bind_eq_some_iff.mp hnode
  exact h.next id.index node hid

/-- The head of a dispatch vector on a closed heap is covered; an address without a record has an empty list. -/
theorem Closed.covers_head (h : heap.Closed) (v : VectorId) : heap.Covers (heap.vector v).head := by
  rw [vector]
  cases hv : heap.vectors[v.index]? with
  | none => exact heap.covers_none
  | some record => exact h.head v.index record hv

/-- The names on a list stay the same at every step. -/
theorem Closed.nameAfter_eq (h : before.Closed) (hgrows : before.Grows after) (hcovers : before.Covers position)
    (steps : Nat) : after.nameAfter position steps = before.nameAfter position steps := by
  induction steps generalizing position with
  | zero => rw [nameAfter, nameAfter, advanceBy, advanceBy, hcovers.nodeAt_eq hgrows]
  | succ steps ih =>
    cases hnode : before.nodeAt position with
    | none => rw [nameAfter_of_end hnode, nameAfter_of_end ((hcovers.nodeAt_eq hgrows).trans hnode)]
    | some node =>
      rw [nameAfter_succ hnode, nameAfter_succ ((hcovers.nodeAt_eq hgrows).trans hnode)]
      exact ih (h.covers_next hnode)

/-- A bounded search gives the same answer. -/
theorem Closed.findWithin_eq (h : before.Closed) (hgrows : before.Grows after) (hcovers : before.Covers position)
    (limit : Nat) : after.findWithin name limit position = before.findWithin name limit position := by
  induction limit generalizing position with
  | zero => rw [findWithin, findWithin, hcovers.nodeAt_eq hgrows]
  | succ limit ih =>
    cases hnode : before.nodeAt position with
    | none => rw [findWithin_of_end hnode, findWithin_of_end ((hcovers.nodeAt_eq hgrows).trans hnode)]
    | some node =>
      rw [findWithin_of_node hnode, findWithin_of_node ((hcovers.nodeAt_eq hgrows).trans hnode),
        ih (h.covers_next hnode)]

/-- A search without a bound gives the same answer. -/
theorem Closed.find_eq (h : before.Closed) (hgrows : before.Grows after) (hcovers : before.Covers position) :
    after.find name position = before.find name position := by
  -- The searches have different bounds, but the larger one adds nothing on the smaller heap.
  rw [find, h.findWithin_eq hgrows hcovers, findWithin_eq_find hgrows.size_nodes]

end Reading

section Adding

/-- A heap without records is closed. -/
theorem closed_empty : Heap.empty.Closed where
  next _ _ h := by cases Array.getElem?_empty.symm.trans h
  head _ _ h := by cases Array.getElem?_empty.symm.trans h

/-- Added nodes are as many more. -/
theorem size_addNodes (heap : Heap) (nodes : List InterfaceNode) :
    (heap.addNodes nodes).nodes.size = heap.nodes.size + nodes.length :=
  Array.size_append.trans (congrArg _ List.size_toArray)

/-- Adding nodes that lead to nodes keeps a heap closed. -/
theorem Closed.addNodes (h : heap.Closed) {nodes : List InterfaceNode}
    (hnext : ∀ node ∈ nodes, (heap.addNodes nodes).Covers node.next) : (heap.addNodes nodes).Closed where
  next i node hnode := by
    rw [Heap.addNodes, Array.getElem?_append] at hnode
    split at hnode
    · exact (h.next i node hnode).mono (heap.grows_addNodes nodes)
    · rw [List.getElem?_toArray] at hnode
      exact hnext node (List.mem_of_getElem? hnode)
  head i vector hvector := (h.head i vector hvector).mono (heap.grows_addNodes nodes)

/-- Adding a dispatch vector that leads to a node keeps a heap closed. -/
theorem Closed.addVector (h : heap.Closed) {vector : DispatchVector} (hhead : heap.Covers vector.head) :
    (heap.addVector vector).1.Closed where
  next := h.next
  head i other hother := by
    rw [Heap.addVector, Array.getElem?_push] at hother
    split at hother
    · cases hother
      exact hhead
    · exact h.head i other hother

/-- Adding an array keeps a heap closed. -/
theorem Closed.addArray (h : heap.Closed) (header : ArrayHeader) : (heap.addArray header).1.Closed :=
  ⟨h.next, h.head⟩

/-- Linking a class keeps a heap closed. -/
theorem Closed.link (h : heap.Closed) (names : List CString) (metadata : Metadata) :
    (heap.link names metadata).1.Closed := by
  have hsize : (heap.addNodes (InterfaceNode.chain heap.nodes.size names)).nodes.size =
      heap.nodes.size + names.length := by
    rw [size_addNodes, InterfaceNode.length_chain]
  apply (h.addNodes fun node hnode id hid => ?_).addVector
  · intro id hid
    rw [hsize]
    cases names with
    | nil => cases hid
    | cons name rest =>
      cases hid
      exact Nat.lt_add_of_pos_right (Nat.succ_pos _)
  · obtain ⟨i, hi⟩ := List.mem_iff_getElem?.mp hnode
    rw [InterfaceNode.getElem?_chain] at hi
    obtain ⟨name, -, rfl⟩ := Option.map_eq_some_iff.mp hi
    rw [hsize]
    dsimp only at hid
    split at hid
    · cases hid
      change heap.nodes.size + i + 1 < _
      omega
    · cases hid

end Adding

end ObjectModel.Heap
