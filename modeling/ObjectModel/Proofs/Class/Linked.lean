import ObjectModel.Class.Load
import ObjectModel.Class.Standalone
import ObjectModel.Proofs.Heap.Iterator
import ObjectModel.Proofs.Heap.Listed
import ObjectModel.Proofs.Heap.Slots

/-!
# The list of a linked class

A class that is linked on a heap has nodes of its own behind those that were there, one for each name in order, and its
list consists of exactly them. What is read or looked up through its dispatch vector therefore follows from the names
alone. Nothing is asked of the names: they may be empty or repeat.
-/

namespace ObjectModel

/-- A class as it was declared: what it counts, and what there is behind its dispatch vector. -/
structure DeclaredClass (before after : Heap) (vector : VectorId) (metadata : Metadata) (names : List CString)
    (interfaceCount : Nat) : Prop where
  /-- It is what filling reserved slots one after the other gives, whatever they held. -/
  inSlots : ∀ blank, before.linkInSlots blank names metadata = (after, vector)
  /-- It carries the type information that it was given. -/
  metadata : (after.vector vector).metadata = metadata
  /-- Its list has no head exactly when there are no names. -/
  head : (after.vector vector).head = none ↔ names = []
  /-- Its list goes through one new node for each name, in order, and each carries its name. -/
  nodes : ∀ i name, names[i]? = some name →
    after.advanceBy i (after.vector vector).head = some ⟨before.nodes.size + i⟩ ∧
      (after.node? ⟨before.nodes.size + i⟩).map (·.name) = some name
  /-- Behind these nodes its list ends. -/
  ends : after.advanceBy names.length (after.vector vector).head = none
  /-- It counts the names. -/
  count : interfaceCount = names.length
  /-- An iterator over its list yields as many names as it counts, and nothing from then on. -/
  endsAfter : (Interfaces.ofVector after vector).EndsAfter after interfaceCount
  /-- The iterator yields the names in order. -/
  yields : ∀ i, (Interfaces.ofVector after vector).yielded after i = names[i]?
  /-- A search without a bound comes to an end, and finds exactly the names. -/
  finds : ∀ name, after.find name (after.vector vector).head = some (decide (name ∈ names)) ∧
    ∃ visited, (Interfaces.ofVector after vector).Search after name visited (decide (name ∈ names))
  /-- A search within a bound finds a name that is first at a position below the bound, and otherwise has an answer when
  there are no more names than the bound says. -/
  findsWithin : ∀ name limit, after.findWithin name limit (after.vector vector).head =
    if name ∈ names ∧ names.idxOf name < limit then some true
    else if names.length ≤ limit then some false
    else none

/-- Linking gives a class as it was declared. -/
theorem Heap.declaredClass_link (heap : Heap) (names : List CString) (metadata : Metadata) :
    DeclaredClass heap (heap.link names metadata).1 (heap.link names metadata).2 metadata names names.length := by
  have hvector := vector_link heap names metadata
  have hnames : (heap.link names metadata).1.HasNames names (linkPlace heap.nodes.size names.length 0) :=
    (heap.hasNames_drop_addNodes names 0).mono (grows_addVector _ _)
  constructor
  case inSlots => exact fun blank => linkInSlots_eq_link heap blank names metadata
  case metadata => rw [hvector]
  case head => rw [hvector, hnames.eq_none_iff]
  case nodes =>
    intro i name hname
    have hlt : i < names.length := (List.getElem?_eq_some_iff.mp hname).1
    have hnode := nodeAt_link heap names metadata i
    rw [linkPlace, if_pos hlt, hname, Option.map_some] at hnode
    rw [hvector, advanceBy_link, linkPlace, if_pos hlt]
    exact ⟨rfl, congrArg (Option.map InterfaceNode.name) hnode⟩
  case ends => rw [hvector, hnames.advanceBy_length]
  case count => rfl
  case endsAfter =>
    refine Interfaces.endsAfter_of_first ?_ fun earlier hlt => ?_
    · rw [Interfaces.ofVector, hvector, hnames.advanceBy_length]
      rfl
    · rw [Interfaces.ofVector, hvector]
      exact Option.isSome_iff_ne_none.mp (hnames.isSome_nodeAt hlt)
  case yields =>
    intro i
    rw [Interfaces.yielded_eq, get?_sequence, Interfaces.ofVector, hvector, hnames.nameAfter_eq]
  case finds =>
    intro name
    rw [Interfaces.exists_search_iff, Interfaces.ofVector, hvector]
    exact ⟨hnames.find_eq name, hnames.find_eq name⟩
  case findsWithin =>
    intro name limit
    rw [hvector, hnames.findWithin_eq_idxOf]

/-- A class is as it was declared, whatever names it was given for interfaces and whatever type information: a payload,
or that of a class of a table. -/
theorem linked_asDeclared (heap : Heap) (names : List CString) :
    (∀ payload,
      let (linked, c) := StandaloneClass.link heap names payload
      DeclaredClass heap linked c.vector (.ofPayload payload) names c.interfaceCount) ∧
    ∀ (table : ClassTable) (name : CString) (kind : TypeKind),
      let loaded := table.insert heap ⟨name, kind, names⟩
      DeclaredClass heap loaded.heap loaded.newest.vector (.ofClass ⟨name, ⟨table.size⟩, kind⟩) names
        loaded.newest.interfaceCount :=
  ⟨fun payload => heap.declaredClass_link names (.ofPayload payload),
    fun table name kind => heap.declaredClass_link names (.ofClass ⟨name, ⟨table.size⟩, kind⟩)⟩

end ObjectModel
