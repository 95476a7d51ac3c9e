import ObjectModel.Proofs.Class.Interfaces
import ObjectModel.Proofs.Heap.Closed

/-!
# What a growing heap leaves alone

When a closed heap grows, everything that is read through a dispatch vector of it stays the same, lists that run in a
circle included. So do the interfaces of a class and its lookups, and a table that grows keeps every class where each
lookup found it.
-/

namespace ObjectModel

/-- What is read through a dispatch vector is the same on both heaps: its record, its list step by step, and what
searches of the list find. -/
structure VectorId.Stays (before after : Heap) (v : VectorId) : Prop where
  record : after.vector v = before.vector v
  names : ∀ steps, after.nameAfter (after.vector v).head steps = before.nameAfter (before.vector v).head steps
  find : ∀ name, after.find name (after.vector v).head = before.find name (before.vector v).head
  findWithin : ∀ name limit,
    after.findWithin name limit (after.vector v).head = before.findWithin name limit (before.vector v).head

/-- A class has the same interfaces and lookups on both heaps, and its dispatch vector leads to its type information. -/
structure LoadedClass.Stays (before after : Heap) (c : LoadedClass) : Prop where
  vector : c.vector.Stays before after
  linked : c.isLinked before = true ∧ c.isLinked after = true
  interfaces : c.interfaces after = c.interfaces before
  implements : ∀ name, c.implements after name = c.implements before name

/-- Every lookup that finds a class in the one table finds the same class in the other. -/
structure ClassTable.Keeps (table grown : ClassTable) : Prop where
  classes : table.classes <+: grown.classes
  byId : ∀ id c, table.byId? id = some c → grown.byId? id = some c
  byName : ∀ name c, table.byName? name = some c → grown.byName? name = some c
  byString : ∀ text c, table.byString? text = some c → grown.byString? text = some c
  byVector : ∀ v c, table.byVector? v = some c → grown.byVector? v = some c

variable {before after : Heap}

/-- A dispatch vector of a closed heap stays what it is when the heap grows. -/
theorem Heap.Closed.stays (h : before.Closed) (hgrows : before.Grows after) {v : VectorId}
    (hv : v.index < before.vectors.size) : v.Stays before after where
  record := hgrows.vector_eq hv
  names steps := by rw [hgrows.vector_eq hv, h.nameAfter_eq hgrows (h.covers_head v)]
  find name := by rw [hgrows.vector_eq hv, h.find_eq hgrows (h.covers_head v)]
  findWithin name limit := by rw [hgrows.vector_eq hv, h.findWithin_eq hgrows (h.covers_head v)]

namespace LoadedClass.Realizes

variable {c : LoadedClass} {i : Nat} {definition : ClassDefinition}

/-- A class stays what it is when a closed heap grows. -/
theorem stays (h : c.Realizes before i definition) (hclosed : before.Closed) (hgrows : before.Grows after) :
    c.Stays before after where
  vector := hclosed.stays hgrows h.vector_lt
  linked := ⟨h.isLinked, (h.mono hgrows).isLinked⟩
  interfaces := by
    apply List.map_injective_iff.mpr fun _ _ => CString.ext
    exact (h.mono hgrows).interfaces.trans h.interfaces.symm
  implements name := by
    rw [LoadedClass.implements, LoadedClass.head, (hclosed.stays hgrows h.vector_lt).find]
    rfl

end LoadedClass.Realizes

/-- A table that has its classes still, ahead of others, keeps what its lookups find. -/
theorem ClassTable.Represents.keeps {table grown : ClassTable} {accepted others : List ClassDefinition}
    (h : table.Represents before accepted) (hgrown : grown.Represents after others)
    (hahead : table.classes <+: grown.classes) : table.Keeps grown := by
  have hbyId : ∀ id c, table.byId? id = some c → grown.byId? id = some c := by
    intro id c hc
    rw [← getElem?_classes] at hc ⊢
    obtain ⟨rest, hrest⟩ := hahead
    rw [← hrest, List.getElem?_append_left (List.getElem?_eq_some_iff.mp hc).1, hc]
  have hbyName : ∀ name c, table.byName? name = some c → grown.byName? name = some c := by
    intro name c hc
    obtain ⟨id, hid⟩ := mem_classes_iff.mp (mem_classes_of_byName? hc)
    exact (h.of_byName? hc).1 ▸ (hgrown.lookups (hbyId id c hid)).1
  refine ⟨hahead, hbyId, hbyName, fun text c hc => ?_, fun v c hc => ?_⟩
  · obtain ⟨name, hname, hfound⟩ := Option.bind_eq_some_iff.mp hc
    exact Option.bind_eq_some_iff.mpr ⟨name, hname, hbyName name c hfound⟩
  · obtain ⟨rfl, id, hid⟩ := h.of_byVector? hc
    exact (hgrown.lookups (hbyId id c hid)).2

end ObjectModel
