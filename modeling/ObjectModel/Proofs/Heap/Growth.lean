import ObjectModel.Heap.Link
import ObjectModel.Instance

/-!
# The heap only grows

Nothing that creates records changes one that is there, so what is found at an address stays there.
-/

namespace ObjectModel

section Places

variable {α : Type}

/-- An array that keeps what another one has at each place has no fewer places. -/
theorem size_le_of_getElem? {xs ys : Array α} (h : ∀ (i : Nat) a, xs[i]? = some a → ys[i]? = some a) :
    xs.size ≤ ys.size := by
  apply Nat.le_of_not_lt
  intro hlt
  have hlast := h ys.size _ (Array.getElem?_eq_getElem hlt)
  rw [Array.getElem?_eq_none (Nat.le_refl _)] at hlast
  cases hlast

/-- Every place of a list with one more entry is one that was there, with its entry, or that of the new entry. -/
theorem getElem?_concat_cases {xs : List α} {x a : α} {i : Nat} (h : (xs ++ [x])[i]? = some a) :
    xs[i]? = some a ∨ i = xs.length ∧ x = a := by
  rw [List.getElem?_append] at h
  split at h
  · exact .inl h
  · obtain ⟨hlast, hentry⟩ := List.getElem?_eq_some_iff.mp h
    rw [List.length_singleton] at hlast
    exact .inr ⟨by omega, (List.getElem_singleton hlast).symm.trans hentry⟩

end Places

/-- What one heap has at an address, the other has there too. -/
structure Heap.Grows (before after : Heap) : Prop where
  nodes : ∀ (i : Nat) node, before.nodes[i]? = some node → after.nodes[i]? = some node
  vectors : ∀ (i : Nat) vector, before.vectors[i]? = some vector → after.vectors[i]? = some vector
  arrays : ∀ (i : Nat) header, before.arrays[i]? = some header → after.arrays[i]? = some header

namespace Heap

variable {before middle after : Heap}

/-- A heap that stays the same has grown. -/
theorem Grows.refl (heap : Heap) : heap.Grows heap :=
  ⟨fun _ _ h => h, fun _ _ h => h, fun _ _ h => h⟩

/-- Growing twice is growing. -/
theorem Grows.trans (first : before.Grows middle) (second : middle.Grows after) : before.Grows after :=
  ⟨fun i node h => second.nodes i node (first.nodes i node h),
    fun i vector h => second.vectors i vector (first.vectors i vector h),
    fun i header h => second.arrays i header (first.arrays i header h)⟩

/-- There are not fewer nodes after growing. -/
theorem Grows.size_nodes (h : before.Grows after) : before.nodes.size ≤ after.nodes.size :=
  size_le_of_getElem? h.nodes

/-- There are not fewer dispatch vectors after growing. -/
theorem Grows.size_vectors (h : before.Grows after) : before.vectors.size ≤ after.vectors.size :=
  size_le_of_getElem? h.vectors

/-- There are not fewer arrays after growing. -/
theorem Grows.size_arrays (h : before.Grows after) : before.arrays.size ≤ after.arrays.size :=
  size_le_of_getElem? h.arrays

/-- A dispatch vector that is there stays what it is. -/
theorem Grows.vector_eq (h : before.Grows after) {v : VectorId} (hv : v.index < before.vectors.size) :
    after.vector v = before.vector v := by
  rw [vector, vector, h.vectors v.index _ (Array.getElem?_eq_getElem hv), Array.getElem?_eq_getElem hv]

/-- An array that is there stays what it is. -/
theorem Grows.array_eq (h : before.Grows after) {id : ArrayId} (hid : id.index < before.arrays.size) :
    after.array id = before.array id := by
  rw [array, array, h.arrays id.index _ (Array.getElem?_eq_getElem hid), Array.getElem?_eq_getElem hid]

/-- The node at a place in a list stays there. -/
theorem Grows.nodeAt (h : before.Grows after) {position : Position} {node : InterfaceNode}
    (hnode : before.nodeAt position = some node) : after.nodeAt position = some node := by
  obtain ⟨id, rfl, hid⟩ := Option.bind_eq_some_iff.mp hnode
  exact h.nodes id.index node hid

/-- Added nodes go behind those that are there. -/
theorem grows_addNodes (heap : Heap) (nodes : List InterfaceNode) : heap.Grows (heap.addNodes nodes) where
  nodes i node h := by
    rw [addNodes, Array.getElem?_append_left (Array.getElem?_eq_some_iff.mp h).1]
    exact h
  vectors _ _ h := h
  arrays _ _ h := h

/-- An added dispatch vector goes behind those that are there. -/
theorem grows_addVector (heap : Heap) (vector : DispatchVector) : heap.Grows (heap.addVector vector).1 where
  nodes _ _ h := h
  vectors i other h := by
    rw [addVector, Array.getElem?_push_lt (Array.getElem?_eq_some_iff.mp h).1]
    exact (Array.getElem?_eq_getElem _).symm.trans h
  arrays _ _ h := h

/-- An added array header goes behind those that are there. -/
theorem grows_addArray (heap : Heap) (header : ArrayHeader) : heap.Grows (heap.addArray header).1 where
  nodes _ _ h := h
  vectors _ _ h := h
  arrays i other h := by
    rw [addArray, Array.getElem?_push_lt (Array.getElem?_eq_some_iff.mp h).1]
    exact (Array.getElem?_eq_getElem _).symm.trans h

/-- Linking a class adds nodes and a dispatch vector. -/
theorem grows_link (heap : Heap) (names : List CString) (metadata : Metadata) :
    heap.Grows (heap.link names metadata).1 :=
  (heap.grows_addNodes _).trans (grows_addVector _ _)

/-- An array is allocated for a class of its element type when it is not too long, and its header is then added. -/
theorem allocateArray_eq_ok_iff {heap : Heap} {c : LoadedClass} {t : ElementType} {values : List t.Value}
    {made : Heap × ArrayId} : heap.allocateArray c t values = .ok made ↔
      c.info.kind = .array t ∧ values.length ≤ maxLength ∧
        heap.addArray ⟨some c.vector, Int32.ofNat values.length, t, some values⟩ = made := by
  rw [allocateArray, LoadedClass.expectKind]
  by_cases hkind : c.info.kind = .array t
  · rw [if_pos hkind]
    by_cases hlength : maxLength < values.length
    · simp [hlength, Nat.not_le.mpr hlength]
    · simp [hkind, hlength, Nat.not_lt.mp hlength]
  · simp [hkind]

end Heap

end ObjectModel
