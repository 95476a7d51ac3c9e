import ObjectModel.Class.Builtin
import ObjectModel.Proofs.Class.Table
import ObjectModel.Proofs.Heap.Closed

/-!
# Loading several classes

Loading a list of definitions keeps a heap closed and gives every class a dispatch vector of its own. A table that holds
some definitions then holds the loaded ones behind them, and all of those have passed their checks.
-/

namespace ObjectModel.ClassTable

variable {limit : Nat} {heap : Heap} {table : ClassTable} {definitions : List ClassDefinition}
  {result : Heap × ClassTable}

/-- Loading keeps a heap closed. -/
theorem closed_loadAll (h : heap.Closed) (hload : (table.loadAll limit heap definitions).value = .ok result) :
    result.1.Closed := by
  apply loadAll_induction (P := fun heap _ => heap.Closed) _ h hload
  exact fun heap table checked hclosed _ => hclosed.link _ _

/-- The dispatch vectors of the classes that are loaded into an empty table are none of those on the heap. -/
theorem vectors_loadAll (hload : (empty.loadAll limit heap definitions).value = .ok result) {c : LoadedClass}
    (hc : c ∈ result.2.classes) : heap.vectors.size ≤ c.vector.index := by
  have hall : heap.vectors.size ≤ result.1.vectors.size ∧
      ∀ c ∈ result.2.classes, heap.vectors.size ≤ c.vector.index := by
    apply loadAll_induction (P := fun later table => heap.vectors.size ≤ later.vectors.size ∧
      ∀ c ∈ table.classes, heap.vectors.size ≤ c.vector.index) _ ⟨le_rfl, fun _ h => absurd h List.not_mem_nil⟩ hload
    intro later table checked ⟨hsize, hvectors⟩ hnew
    refine ⟨hsize.trans (later.grows_link _ _).size_vectors, fun c hc => ?_⟩
    rw [classes_insert hnew, List.mem_append, List.mem_singleton] at hc
    rcases hc with hold | rfl
    · exact hvectors c hold
    · exact hsize
  exact hall.2 c hc

/-- Loading a list of definitions puts them behind those that a table holds; each of them has passed its checks. -/
theorem Represents.loadAll {accepted : List ClassDefinition} (h : Represents heap table accepted)
    (hload : (table.loadAll limit heap definitions).value = .ok result) :
    Represents result.1 result.2 (accepted ++ definitions) ∧
      ∀ definition ∈ definitions, ∃ checked, (definition.check limit).value = .ok checked := by
  induction definitions generalizing heap table accepted with
  | nil =>
    cases hload
    rw [List.append_nil]
    exact ⟨h, fun _ hmem => nomatch hmem⟩
  | cons definition rest ih =>
    obtain ⟨loaded, hfirst, hrest⟩ := Outcome.value_andThen_eq_ok_iff.mp hload
    obtain ⟨checked, hchecked, hnew, rfl⟩ := load_eq_ok_iff.mp hfirst
    obtain ⟨hrepresents, hall⟩ := ih (h.insert hchecked hnew) hrest
    rw [List.append_assoc] at hrepresents
    exact ⟨hrepresents, List.forall_mem_cons.mpr ⟨⟨checked, hchecked⟩, hall⟩⟩

end ObjectModel.ClassTable
