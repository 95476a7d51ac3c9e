import Mathlib.Data.Seq.Basic
import ObjectModel.Proofs.Heap.Search

/-!
# The names of a list as a sequence

Following the nodes of a list from a place on gives a sequence of names, which is infinite for a list that runs in a
circle. Its entries are the names met step by step, and it has ended where the list has.
-/

namespace ObjectModel.Heap

open Stream'

variable {heap : Heap} {position : Position}

/-- The names of the nodes from a place on, each node followed by the one that it leads to. -/
def sequence (heap : Heap) (position : Position) : Seq CString :=
  Seq.corec (fun place => (heap.nodeAt place).map fun node => (node.name, node.next)) position

/-- Past the end the sequence is empty. -/
theorem sequence_of_end (h : heap.nodeAt position = none) : heap.sequence position = .nil :=
  Seq.corec_nil _ _ (by rw [h, Option.map_none])

/-- The sequence from a node on is its name and then the sequence from its successor on. -/
theorem sequence_of_node {node : InterfaceNode} (h : heap.nodeAt position = some node) :
    heap.sequence position = .cons node.name (heap.sequence node.next) :=
  Seq.corec_cons (by rw [h, Option.map_some])

/-- The entries of the sequence are the names at the places reached step by step. -/
theorem get?_sequence (steps : Nat) : (heap.sequence position).get? steps = heap.nameAfter position steps := by
  induction steps generalizing position with
  | zero =>
    cases hnode : heap.nodeAt position with
    | none => rw [sequence_of_end hnode, nameAfter_of_end hnode, Seq.get?_nil]
    | some node => rw [sequence_of_node hnode, nameAfter_zero hnode, Seq.get?_cons_zero]
  | succ steps ih =>
    cases hnode : heap.nodeAt position with
    | none => rw [sequence_of_end hnode, nameAfter_of_end hnode, Seq.get?_nil]
    | some node => rw [sequence_of_node hnode, nameAfter_succ hnode, Seq.get?_cons_succ, ih]

/-- The sequence has ended at an entry exactly when the list has ended at that place. -/
theorem terminatedAt_sequence_iff {steps : Nat} :
    (heap.sequence position).TerminatedAt steps ↔ heap.nodeAt (heap.advanceBy steps position) = none := by
  rw [Seq.TerminatedAt, get?_sequence, nameAfter, Option.map_eq_none_iff]

/-- A name is among the first entries exactly when it is met in fewer steps. -/
theorem mem_take_sequence_iff {name : CString} {limit : Nat} :
    name ∈ (heap.sequence position).take limit ↔ ∃ steps < limit, heap.nameAfter position steps = some name := by
  simp only [List.mem_iff_getElem?, Seq.getElem?_take, get?_sequence]
  apply exists_congr
  intro steps
  by_cases hlt : steps < limit <;> simp [hlt]

/-- A name is in the sequence exactly when some node of the list has it. -/
theorem mem_sequence_iff {name : CString} : name ∈ heap.sequence position ↔ heap.Lists position name := by
  rw [Seq.mem_iff_exists_get?, Lists]
  simp only [get?_sequence, eq_comm]

end ObjectModel.Heap
