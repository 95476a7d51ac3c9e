import ObjectModel.Heap.Link

/-!
# Linking slot by slot

The storage of a class is there before the class is linked: a slot for each interface node and one for the dispatch
vector. The slots are filled one after the other, and each node leads to a slot that is filled only later. Once all are
filled the heap is the one to which the finished nodes are added at once, whatever the slots held before.
-/

namespace ObjectModel

/-- The node for one slot of a chain. It leads to the slot behind it, and from the last one nowhere. -/
def InterfaceNode.linkedAt (base count : Nat) (name : CString) (i : Nat) : InterfaceNode :=
  ⟨name, if i + 1 < count then some ⟨base + i + 1⟩ else none⟩

/-- A chain has in each slot the node for it. -/
theorem InterfaceNode.chain_eq (base : Nat) (names : List CString) :
    chain base names = names.zipIdx.map fun (name, i) => linkedAt base names.length name i :=
  rfl

namespace Heap

/-- Adds slots for so many nodes, and one for a dispatch vector, whose address it gives. -/
def reserve (heap : Heap) (blank : InterfaceNode) (count : Nat) : Heap × VectorId :=
  (heap.addNodes (List.replicate count blank)).addVector .empty

/-- Writes a node into its slot. -/
def writeNode (heap : Heap) (id : NodeId) (node : InterfaceNode) : Heap :=
  { heap with nodes := heap.nodes.setIfInBounds id.index node }

/-- Writes a dispatch vector into its slot. -/
def writeVector (heap : Heap) (id : VectorId) (vector : DispatchVector) : Heap :=
  { heap with vectors := heap.vectors.setIfInBounds id.index vector }

/-- Fills the slots of a chain from a position on, in order. -/
def writeChain (base count : Nat) (heap : Heap) (i : Nat) : List CString → Heap
  | [] => heap
  | name :: rest => writeChain base count (heap.writeNode ⟨base + i⟩ (.linkedAt base count name i)) (i + 1) rest

/-- Reserves the slots of a class, fills those of its nodes, and points its dispatch vector at the first of them. The
storage of a class without interfaces is not a head. -/
def linkInSlots (heap : Heap) (blank : InterfaceNode) (names : List CString) (metadata : Metadata) : Heap × VectorId :=
  let base := heap.nodes.size
  let (reserved, vector) := heap.reserve blank names.length
  let linked := writeChain base names.length reserved 0 names
  let head := if names.length = 0 then none else some ⟨base⟩
  (linked.writeVector vector ⟨head, metadata⟩, vector)

/-- Writing a node into the first blank slot fills that slot and no other. -/
theorem writeNode_first (heap : Heap) (filled : List InterfaceNode) (node blank : InterfaceNode) (count : Nat) :
    writeNode { heap with nodes := (filled ++ List.replicate (count + 1) blank).toArray } ⟨filled.length⟩ node =
      { heap with nodes := (filled ++ [node] ++ List.replicate count blank).toArray } := by
  simp only [writeNode]
  rw [List.setIfInBounds_toArray, List.set_append_right _ _ (Nat.le_refl _), Nat.sub_self, List.replicate_succ,
    List.set_cons_zero, List.append_cons]

/-- Behind slots that are filled, filling the blank ones puts the rest of the chain into them. -/
theorem writeChain_eq (base count : Nat) (heap : Heap) (filled : List InterfaceNode) (blank : InterfaceNode) (i : Nat)
    (names : List CString) (hfilled : filled.length = base + i) :
    writeChain base count { heap with nodes := (filled ++ List.replicate names.length blank).toArray } i names =
      { heap with
        nodes := (filled ++ (names.zipIdx i).map fun (name, i) => InterfaceNode.linkedAt base count name i).toArray } := by
  -- All that is ahead of the first blank slot goes into the induction, since each write adds to it.
  induction names generalizing filled i with
  | nil => rfl
  | cons name rest ih =>
    have hnext : (filled ++ [InterfaceNode.linkedAt base count name i]).length = base + (i + 1) := by
      rw [List.length_append, hfilled, List.length_singleton, Nat.add_assoc]
    rw [writeChain, List.length_cons, ← hfilled, writeNode_first, ih _ _ hnext, List.zipIdx_cons, List.map_cons,
      List.append_assoc, List.singleton_append]

/-- Writing into the slot of the newest dispatch vector is as if it had been added like that. -/
theorem writeVector_addVector (heap : Heap) (first second : DispatchVector) :
    (heap.addVector first).1.writeVector (heap.addVector first).2 second = (heap.addVector second).1 := by
  simp only [addVector, writeVector]
  rw [Array.setIfInBounds, dif_pos (Array.size_push first ▸ Nat.lt_succ_self _), Array.set_push,
    dif_neg (Nat.lt_irrefl _)]

/-- Added nodes are behind those that were there. -/
theorem addNodes_eq (heap : Heap) (nodes : List InterfaceNode) :
    heap.addNodes nodes = { heap with nodes := (heap.nodes.toList ++ nodes).toArray } := by
  rw [addNodes, ← List.append_toArray, Array.toArray_toList]

/-- Filling all of the reserved slots is adding the finished nodes. -/
theorem writeChain_reserve (heap : Heap) (blank : InterfaceNode) (names : List CString) :
    writeChain heap.nodes.size names.length (heap.reserve blank names.length).1 0 names =
      ((heap.addNodes (InterfaceNode.chain heap.nodes.size names)).addVector .empty).1 := by
  simp only [reserve, addNodes_eq, addVector, InterfaceNode.chain_eq]
  exact writeChain_eq _ _ (heap.addVector .empty).1 heap.nodes.toList blank 0 names rfl

/-- Linking slot by slot is adding the finished nodes and the finished dispatch vector at once. -/
theorem linkInSlots_eq_link (heap : Heap) (blank : InterfaceNode) (names : List CString) (metadata : Metadata) :
    heap.linkInSlots blank names metadata = heap.link names metadata := by
  have hhead : (if names.length = 0 then none else some ⟨heap.nodes.size⟩ : Option NodeId) =
      if names.isEmpty then none else some ⟨heap.nodes.size⟩ := by
    cases names <;> rfl
  simp only [linkInSlots, writeChain_reserve, hhead]
  exact Prod.ext (writeVector_addVector _ _ _) rfl

end Heap

end ObjectModel
