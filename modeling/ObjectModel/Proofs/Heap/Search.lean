import ObjectModel.Access
import ObjectModel.Proofs.Heap.Walk

/-!
# Searching an interface list

A search within at least as many nodes as the heap has answers for every list but a circle without the name. A search
without a bound does not come to an end on such a circle, and on any other list gives the same answer after visiting
no more nodes than there are.
-/

namespace ObjectModel

/-- A search without a bound for a name: it asks an iterator for names until there is none or the name has come, and
has then visited so many nodes. A search that never comes to an end is not related to any answer. -/
inductive Interfaces.Search (heap : Heap) (name : CString) : Interfaces → Nat → Bool → Prop
  | ended {it after : Interfaces} (hnext : it.next heap = (none, after)) : Search heap name it 0 false
  | found {it after : Interfaces} (hnext : it.next heap = (some name, after)) : Search heap name it 1 true
  | passed {it after : Interfaces} {other : CString} {visited : Nat} {answer : Bool}
      (hnext : it.next heap = (some other, after)) (hne : other ≠ name) (hrest : Search heap name after visited answer) :
      Search heap name it (visited + 1) answer

namespace Heap

variable {heap : Heap} {position : Position} {name : CString} {limit : Nat}

/-- Past the end there are no names. -/
theorem nameAfter_of_end (h : heap.nodeAt position = none) (steps : Nat) : heap.nameAfter position steps = none := by
  cases steps with
  | zero => rw [nameAfter, advanceBy, h, Option.map_none]
  | succ steps => rw [nameAfter, advanceBy, h, nodeAt, Option.bind_none, Option.map_none]

/-- The first name from a node on is its own. -/
theorem nameAfter_zero {node : InterfaceNode} (h : heap.nodeAt position = some node) :
    heap.nameAfter position 0 = some node.name := by
  rw [nameAfter, advanceBy, h, Option.map_some]

/-- The other names from a node on are those from its successor on. -/
theorem nameAfter_succ {node : InterfaceNode} (h : heap.nodeAt position = some node) (steps : Nat) :
    heap.nameAfter position (steps + 1) = heap.nameAfter node.next steps := by
  rw [nameAfter, advanceBy_of_node h, nameAfter]

/-- Past the end no name is found, whatever the bound. -/
theorem findWithin_of_end (h : heap.nodeAt position = none) (limit : Nat) :
    heap.findWithin name limit position = some false := by
  cases limit <;> simp [findWithin, h]

/-- At a node the search stops, or goes on from its successor within one node less. -/
theorem findWithin_of_node {node : InterfaceNode} (h : heap.nodeAt position = some node) (limit : Nat) :
    heap.findWithin name (limit + 1) position =
      if node.name = name then some true else heap.findWithin name limit node.next := by
  rw [findWithin, h]

/-- A bounded search finds the names met within the bound. -/
theorem findWithin_eq_some_true_iff :
    heap.findWithin name limit position = some true ↔ ∃ steps < limit, heap.nameAfter position steps = some name := by
  induction limit generalizing position with
  | zero =>
    simp only [findWithin, Nat.not_lt_zero, false_and, exists_false, iff_false]
    split <;> simp
  | succ limit ih =>
    cases hnode : heap.nodeAt position with
    | none => simp [findWithin_of_end hnode, nameAfter_of_end hnode]
    | some node =>
      rw [findWithin_of_node hnode]
      by_cases hname : node.name = name
      · simp only [hname, if_true, true_iff]
        exact ⟨0, Nat.succ_pos limit, hname ▸ nameAfter_zero hnode⟩
      · simp only [hname, if_false, ih]
        constructor
        · rintro ⟨steps, hsteps, hmet⟩
          exact ⟨steps + 1, Nat.succ_lt_succ hsteps, (nameAfter_succ hnode steps).trans hmet⟩
        · rintro ⟨steps, hsteps, hmet⟩
          cases steps with
          | zero => exact absurd (Option.some.inj ((nameAfter_zero hnode).symm.trans hmet)) hname
          | succ steps => exact ⟨steps, Nat.lt_of_succ_lt_succ hsteps, (nameAfter_succ hnode steps).symm.trans hmet⟩

/-- A bounded search that does not find the name says so exactly when the list has ended within the bound. -/
theorem findWithin_eq_of_not_met (h : heap.findWithin name limit position ≠ some true) :
    heap.findWithin name limit position =
      if (heap.nodeAt (heap.advanceBy limit position)).isSome then none else some false := by
  induction limit generalizing position with
  | zero => rw [findWithin, advanceBy]
  | succ limit ih =>
    cases hnode : heap.nodeAt position with
    | none =>
      rw [findWithin_of_end hnode, advanceBy, hnode]
      rfl
    | some node =>
      rw [findWithin_of_node hnode] at h ⊢
      rw [advanceBy_of_node hnode]
      by_cases hname : node.name = name
      · exact absurd (if_pos hname) h
      · rw [if_neg hname] at h ⊢
        exact ih h

/-- What a search within at least as many nodes as there are can come to: the name is on the list, the list ends
without it, or the list is a circle without it. -/
theorem findWithin_cases (name : CString) (position : Position) (hlimit : heap.nodes.size ≤ limit) :
    (heap.findWithin name limit position = some true ∧ heap.Lists position name) ∨
      (heap.findWithin name limit position = some false ∧ heap.Ends position ∧ ¬heap.Lists position name) ∨
      (heap.findWithin name limit position = none ∧ ¬heap.Ends position ∧ ¬heap.Lists position name) := by
  have hlists : heap.findWithin name limit position = some true ↔ heap.Lists position name :=
    findWithin_eq_some_true_iff.trans (lists_iff hlimit).symm
  by_cases hmet : heap.findWithin name limit position = some true
  · exact Or.inl ⟨hmet, hlists.mp hmet⟩
  · have hmissed : ¬heap.Lists position name := fun h => hmet (hlists.mpr h)
    have hanswer := findWithin_eq_of_not_met hmet
    by_cases hends : heap.Ends position
    · rw [(ends_iff hlimit).mp hends] at hanswer
      exact Or.inr (Or.inl ⟨hanswer, hends, hmissed⟩)
    · have hlive := Option.isSome_iff_ne_none.mpr fun h => hends ((ends_iff hlimit).mpr h)
      rw [if_pos hlive] at hanswer
      exact Or.inr (Or.inr ⟨hanswer, hends, hmissed⟩)

/-- A search within at least as many nodes as there are finds exactly the names of the list. -/
theorem findWithin_eq_true_iff (hlimit : heap.nodes.size ≤ limit) :
    heap.findWithin name limit position = some true ↔ heap.Lists position name := by
  rcases findWithin_cases name position hlimit with ⟨h, hl⟩ | ⟨h, he, hl⟩ | ⟨h, he, hl⟩ <;> simp [h, hl]

/-- A search within at least as many nodes as there are denies exactly the names missing from a list that ends. -/
theorem findWithin_eq_false_iff (hlimit : heap.nodes.size ≤ limit) :
    heap.findWithin name limit position = some false ↔ heap.Ends position ∧ ¬heap.Lists position name := by
  rcases findWithin_cases name position hlimit with ⟨h, hl⟩ | ⟨h, he, hl⟩ | ⟨h, he, hl⟩ <;> simp [*]

/-- A search within at least as many nodes as there are gives no answer exactly for a circle without the name. -/
theorem findWithin_eq_none_iff (hlimit : heap.nodes.size ≤ limit) :
    heap.findWithin name limit position = none ↔ ¬heap.Ends position ∧ ¬heap.Lists position name := by
  rcases findWithin_cases name position hlimit with ⟨h, hl⟩ | ⟨h, he, hl⟩ | ⟨h, he, hl⟩ <;> simp [*]

/-- A search within at least as many nodes as there are gives the same answer as one without a stated bound. -/
theorem findWithin_eq_find (hlimit : heap.nodes.size ≤ limit) :
    heap.findWithin name limit position = heap.find name position := by
  rw [find]
  rcases findWithin_cases name position hlimit with ⟨h, hl⟩ | ⟨h, he, hl⟩ | ⟨h, he, hl⟩
  · rw [h, (findWithin_eq_true_iff le_rfl).mpr hl]
  · rw [h, (findWithin_eq_false_iff le_rfl).mpr ⟨he, hl⟩]
  · rw [h, (findWithin_eq_none_iff le_rfl).mpr ⟨he, hl⟩]

end Heap

namespace Interfaces

variable {heap : Heap} {it after : Interfaces} {name other : CString} {visited : Nat} {answer : Bool}

/-- An iterator past the end yields no name and stays there. -/
theorem next_of_end (h : heap.nodeAt it.position = none) : it.next heap = (none, ⟨none⟩) := by
  rw [next, h]

/-- An iterator at a node yields its name and goes on to its successor. -/
theorem next_of_node {node : InterfaceNode} (h : heap.nodeAt it.position = some node) :
    it.next heap = (some node.name, ⟨node.next⟩) := by
  rw [next, h]

/-- An iterator that yields no name is past the end. -/
theorem nodeAt_of_next_none (h : it.next heap = (none, after)) : heap.nodeAt it.position = none := by
  cases hnode : heap.nodeAt it.position with
  | none => rfl
  | some node => cases (next_of_node hnode).symm.trans h

/-- An iterator that yields a name is at a node with that name, and then at the successor. -/
theorem nodeAt_of_next_some (h : it.next heap = (some other, after)) :
    ∃ node, heap.nodeAt it.position = some node ∧ node.name = other ∧ node.next = after.position := by
  cases hnode : heap.nodeAt it.position with
  | none => cases (next_of_end hnode).symm.trans h
  | some node =>
    cases (next_of_node hnode).symm.trans h
    exact ⟨node, rfl, rfl, rfl⟩

/-- A search that comes to an end gives the answer of a search within at least as many nodes as it visits. -/
theorem Search.findWithin_eq (h : Search heap name it visited answer) {limit : Nat} (hlimit : visited ≤ limit) :
    heap.findWithin name limit it.position = some answer := by
  induction h generalizing limit with
  | ended hnext => exact Heap.findWithin_of_end (nodeAt_of_next_none hnext) limit
  | found hnext =>
    obtain ⟨node, hnode, hname, -⟩ := nodeAt_of_next_some hnext
    obtain ⟨limit, rfl⟩ := Nat.exists_eq_add_of_le' hlimit
    rw [Heap.findWithin_of_node hnode, if_pos hname]
  | passed hnext hne _ ih =>
    obtain ⟨node, hnode, rfl, hafter⟩ := nodeAt_of_next_some hnext
    obtain ⟨limit, rfl⟩ := Nat.exists_eq_add_of_le' hlimit
    rw [← Nat.add_assoc, Heap.findWithin_of_node hnode, if_neg hne, hafter]
    exact ih (Nat.le_add_left _ limit)

/-- A bounded search with an answer is one without a bound that visits no more nodes. -/
theorem search_of_findWithin {position : Position} {limit : Nat}
    (h : heap.findWithin name limit position = some answer) :
    ∃ visited ≤ limit, Search heap name ⟨position⟩ visited answer := by
  induction limit generalizing position with
  | zero =>
    cases hnode : heap.nodeAt position with
    | none =>
      rw [Heap.findWithin_of_end hnode] at h
      cases h
      exact ⟨0, le_rfl, .ended (next_of_end hnode)⟩
    | some node => simp [Heap.findWithin, hnode] at h
  | succ limit ih =>
    cases hnode : heap.nodeAt position with
    | none =>
      rw [Heap.findWithin_of_end hnode] at h
      cases h
      exact ⟨0, Nat.zero_le _, .ended (next_of_end hnode)⟩
    | some node =>
      rw [Heap.findWithin_of_node hnode] at h
      by_cases hname : node.name = name
      · rw [if_pos hname] at h
        cases h
        exact ⟨1, Nat.le_add_left 1 limit, .found (hname ▸ next_of_node hnode)⟩
      · rw [if_neg hname] at h
        obtain ⟨visited, hle, hrest⟩ := ih h
        exact ⟨visited + 1, Nat.succ_le_succ hle, .passed (next_of_node hnode) hname hrest⟩

/-- A search comes to an end in one way at most. -/
theorem Search.visited_unique (h : Search heap name it visited answer) {visited' : Nat} {answer' : Bool}
    (h' : Search heap name it visited' answer') : visited = visited' := by
  induction h generalizing visited' with
  | ended hnext => cases h' <;> simp_all
  | found hnext => cases h' <;> simp_all
  | passed hnext hne _ ih =>
    cases h' with
    | ended hnext' => simp_all
    | found hnext' => simp_all
    | passed hnext' _ hrest' =>
      cases hnext.symm.trans hnext'
      rw [ih hrest']

/-- A search comes to an end exactly with the answer of the walk that is bounded by the number of nodes. -/
theorem exists_search_iff :
    (∃ visited, Search heap name it visited answer) ↔ heap.find name it.position = some answer := by
  constructor
  · rintro ⟨visited, hsearch⟩
    rw [← Heap.findWithin_eq_find (Nat.le_max_right visited _)]
    exact hsearch.findWithin_eq (Nat.le_max_left visited _)
  · intro hfind
    obtain ⟨visited, -, hsearch⟩ := search_of_findWithin hfind
    exact ⟨visited, hsearch⟩

/-- A search that comes to an end has visited no more nodes than there are. -/
theorem Search.visited_le (h : Search heap name it visited answer) : visited ≤ heap.nodes.size := by
  obtain ⟨fewest, hle, hsearch⟩ := search_of_findWithin (exists_search_iff.mp ⟨visited, h⟩)
  exact h.visited_unique hsearch ▸ hle

end Interfaces

/-- A checked lookup reports a malformed list exactly when the bounded search has no answer. -/
theorem Access.kind_implementsInterface_iff {heap : Heap} {limit : Nat} {vector : VectorId} {name : CString} :
    (∃ fault, (implementsInterface heap limit (some vector) name).value = .error fault ∧
        fault.kind = .malformedMetadata) ↔
      heap.findWithin name limit (heap.vector vector).head = none := by
  rw [implementsInterface]
  cases heap.findWithin name limit (heap.vector vector).head with
  | none => exact iff_of_true ⟨_, rfl, rfl⟩ rfl
  | some answer => exact iff_of_false (fun ⟨_, h, _⟩ => nomatch h) (fun h => nomatch h)

/-- Cycle detection is exact once the bound covers the heap: the bounded search finds the names on the list, denies the
others when the list ends, and otherwise has no answer, which the checked lookup reports. A search without a bound
comes to an end unless the list is a circle without the name; it then gives the same answer and has visited no more
nodes than there are. -/
theorem Heap.cycleDetection_exact (heap : Heap) (vector : VectorId) (name : CString) {limit : Nat}
    (hlimit : heap.nodes.size ≤ limit) :
    let head := (heap.vector vector).head
    (heap.findWithin name limit head = some true ↔ heap.Lists head name) ∧
      (heap.findWithin name limit head = none ↔ ¬heap.Ends head ∧ ¬heap.Lists head name) ∧
      (heap.findWithin name limit head = some false ↔ heap.Ends head ∧ ¬heap.Lists head name) ∧
      ((∃ fault, (Access.implementsInterface heap limit (some vector) name).value = .error fault ∧
          fault.kind = .malformedMetadata) ↔ ¬heap.Ends head ∧ ¬heap.Lists head name) ∧
      ((¬∃ visited answer, (Interfaces.ofVector heap vector).Search heap name visited answer) ↔
        ¬heap.Ends head ∧ ¬heap.Lists head name) ∧
      (∀ answer, heap.find name head = some answer ↔
        ∃ visited, (Interfaces.ofVector heap vector).Search heap name visited answer) ∧
      ∀ visited answer, (Interfaces.ofVector heap vector).Search heap name visited answer →
        heap.findWithin name limit head = some answer ∧ visited ≤ heap.nodes.size := by
  intro head
  have hnone : heap.findWithin name limit head = none ↔ ¬heap.Ends head ∧ ¬heap.Lists head name :=
    findWithin_eq_none_iff hlimit
  refine ⟨findWithin_eq_true_iff hlimit, hnone, findWithin_eq_false_iff hlimit,
    Access.kind_implementsInterface_iff.trans hnone, ?_, fun answer => ?_, ?_⟩
  · rw [← hnone, findWithin_eq_find hlimit, Option.eq_none_iff_forall_ne_some, exists_comm, not_exists]
    apply forall_congr'
    intro answer
    exact not_congr Interfaces.exists_search_iff
  · rw [Interfaces.exists_search_iff, Interfaces.ofVector]
  · intro visited answer hsearch
    rw [findWithin_eq_find hlimit]
    exact ⟨Interfaces.exists_search_iff.mp ⟨visited, hsearch⟩, hsearch.visited_le⟩

/-- A circle of two nodes, entered in the second one. -/
theorem Heap.cycleDetection_exact_circle :
    let heap : Heap :=
      ⟨#[⟨⟨[97], by decide⟩, some ⟨1⟩⟩, ⟨⟨[98], by decide⟩, some ⟨0⟩⟩], #[⟨some ⟨1⟩, .absent⟩], #[]⟩
    heap.nodes.size ≤ 2 ∧ ¬heap.Ends (some ⟨1⟩) ∧ heap.Lists (some ⟨1⟩) ⟨[97], by decide⟩ ∧
      ¬∃ visited answer, (Interfaces.ofVector heap ⟨0⟩).Search heap ⟨[99], by decide⟩ visited answer := by
  intro heap
  have hlimit : heap.nodes.size ≤ 2 := by decide
  obtain ⟨-, hnone, -, -, hsearch, -⟩ := cycleDetection_exact heap ⟨0⟩ ⟨[99], by decide⟩ hlimit
  obtain ⟨htrue, -⟩ := cycleDetection_exact heap ⟨0⟩ ⟨[97], by decide⟩ hlimit
  have hcircle := hnone.mp (by decide)
  exact ⟨hlimit, hcircle.1, htrue.mp (by decide), hsearch.mpr hcircle⟩

end ObjectModel
