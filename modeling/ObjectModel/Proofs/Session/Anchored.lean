import ObjectModel.Proofs.Session.Growth
import ObjectModel.Proofs.Session.History

/-!
# The client's addresses

What the client has made by hand, and the classes it has linked without a table, it knows by address. In every session
of a run these addresses lead to records, and the heap is closed.
-/

namespace ObjectModel.Session

/-- The heap is closed, and every address that the client was given leads to a record on it. -/
structure Anchored (s : Session) : Prop where
  closed : s.heap.Closed
  nodes : ∀ id ∈ s.nodes, id.index < s.heap.nodes.size
  vectors : ∀ v ∈ s.vectors, v.index < s.heap.vectors.size
  standalone : ∀ c ∈ s.standalone, c.vector.index < s.heap.vectors.size
  arrays : ∀ id ∈ s.arrays, id.index < s.heap.arrays.size

variable {s next : Session} {c : Command}

/-- Nothing is given before anything is made. -/
theorem anchored_start : start.Anchored where
  closed := Heap.closed_empty
  nodes _ h := nomatch h
  vectors _ h := nomatch h
  standalone _ h := nomatch h
  arrays _ h := nomatch h

/-- The client's addresses lead to records when the heap grows into a closed one and new addresses do. -/
theorem Anchored.mono (h : s.Anchored) (hgrows : s.heap.Grows next.heap) (hclosed : next.heap.Closed)
    (hnodes : ∀ id ∈ next.nodes, id ∈ s.nodes ∨ id.index < next.heap.nodes.size)
    (hvectors : ∀ v ∈ next.vectors, v ∈ s.vectors ∨ v.index < next.heap.vectors.size)
    (hstandalone : ∀ c ∈ next.standalone, c ∈ s.standalone ∨ c.vector.index < next.heap.vectors.size)
    (harrays : ∀ id ∈ next.arrays, id ∈ s.arrays ∨ id.index < next.heap.arrays.size) : next.Anchored where
  closed := hclosed
  nodes id hid := (hnodes id hid).elim (fun hold => (h.nodes id hold).trans_le hgrows.size_nodes) fun hnew => hnew
  vectors v hv := (hvectors v hv).elim (fun hold => (h.vectors v hold).trans_le hgrows.size_vectors) fun hnew => hnew
  standalone c hc :=
    (hstandalone c hc).elim (fun hold => (h.standalone c hold).trans_le hgrows.size_vectors) fun hnew => hnew
  arrays id hid := (harrays id hid).elim (fun hold => (h.arrays id hold).trans_le hgrows.size_arrays) fun hnew => hnew

/-- No command takes an address away from its record. -/
theorem Anchored.step (h : s.Anchored) (heffect : s.Effect c next) : next.Anchored := by
  have hgrows := heffect.grows_heap
  cases heffect with
  | newBuiltinTable hbuilt =>
    exact h.mono hgrows (ClassTable.closed_loadAll h.closed hbuilt) (fun _ => .inl) (fun _ => .inl) (fun _ => .inl)
      (fun _ => .inl)
  | load _ _ hload =>
    obtain ⟨checked, -, -, rfl⟩ := ClassTable.load_eq_ok_iff.mp hload
    exact h.mono hgrows (h.closed.link _ _) (fun _ => .inl) (fun _ => .inl) (fun _ => .inl) (fun _ => .inl)
  | create _ hcreated =>
    exact h.mono hgrows (hcreated.closed h.closed) (fun _ => .inl) (fun _ => .inl) (fun _ => .inl) (fun _ => .inl)
  | linkClass interfaces payload =>
    refine h.mono hgrows (h.closed.link _ _) (fun _ => .inl) (fun _ => .inl) (fun c hc => ?_) (fun _ => .inl)
    refine (List.mem_append.mp hc).imp_right fun hnew => ?_
    rw [List.mem_singleton.mp hnew]
    exact Array.size_push _ ▸ Nat.lt_succ_self _
  | @makeNodes nodes linked fresh hlinked hfresh =>
    -- The new nodes may lead to each other, so the addresses of all of them come first.
    have hsize := s.heap.size_addNodes linked
    have hknown : ∀ id ∈ s.nodes ++ fresh, id ∈ s.nodes ∨ id.index < (s.heap.addNodes linked).nodes.size :=
      fun id hid => (List.mem_append.mp hid).imp_right fun hnew => hsize ▸ hfresh id hnew
    refine h.mono hgrows (h.closed.addNodes fun node hnode id hid => ?_) hknown (fun _ => .inl) (fun _ => .inl)
      (fun _ => .inl)
    rcases hknown id (hlinked node hnode id hid) with hold | hnew
    · exact (h.nodes id hold).trans_le hgrows.size_nodes
    · exact hnew
  | makeVector hhead =>
    have hclosed := h.closed.addVector fun id hid => h.nodes id (hhead id hid)
    refine h.mono hgrows hclosed (fun _ => .inl) (fun v hv => ?_) (fun _ => .inl) (fun _ => .inl)
    refine (List.mem_append.mp hv).imp_right fun hnew => ?_
    rw [List.mem_singleton.mp hnew]
    exact Array.size_push _ ▸ Nat.lt_succ_self _
  | makeArray =>
    refine h.mono hgrows (h.closed.addArray _) (fun _ => .inl) (fun _ => .inl) (fun _ => .inl) (fun id hid => ?_)
    refine (List.mem_append.mp hid).imp_right fun hnew => ?_
    rw [List.mem_singleton.mp hnew]
    exact Array.size_push _ ▸ Nat.lt_succ_self _
  | _ => exact h.mono hgrows h.closed (fun _ => .inl) (fun _ => .inl) (fun _ => .inl) (fun _ => .inl)

/-- The client's addresses lead to records after every run. -/
theorem anchored_run (requests : List Request) : (start.run requests).1.Anchored :=
  run_induction (fun _ _ _ heffect h => h.step heffect) anchored_start requests

end ObjectModel.Session
