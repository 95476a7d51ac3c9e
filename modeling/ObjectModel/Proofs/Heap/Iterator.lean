import Mathlib.Data.Set.Function
import ObjectModel.Proofs.Heap.Sequence

/-!
# Iterators over interface lists

An iterator yields the names from the node that it stands on. Over a list that ends it yields the names of nodes that
differ, and from then on nothing. Over a circle every call yields a name, and from some call on the names repeat. As many
calls as there are nodes and one more tell which of the two it is.
-/

namespace ObjectModel

namespace Interfaces

/-- What the call of `next` behind so many others yields. -/
def yielded (heap : Heap) (it : Interfaces) (calls : Nat) : Option CString :=
  ((it.take heap calls).2.next heap).1

/-- So many calls yield the names of nodes that differ, in list order, and no later call yields a name. -/
structure EndsAfter (heap : Heap) (it : Interfaces) (count : Nat) : Prop where
  yields : ∀ i < count, ∃ id node, heap.advanceBy i it.position = some id ∧ heap.node? id = some node ∧
    it.yielded heap i = some node.name
  distinct : Set.InjOn (heap.advanceBy · it.position) (Set.Iio count)
  fused : ∀ i, count ≤ i → it.yielded heap i = none

/-- Every call yields a name, and from some call on the names repeat with a period. -/
structure RepeatsFrom (heap : Heap) (it : Interfaces) (lead period : Nat) : Prop where
  positive : 1 ≤ period
  endless : ∀ i, (it.yielded heap i).isSome
  repeats : ∀ i, lead ≤ i → it.yielded heap (i + period) = it.yielded heap i

variable {heap : Heap} {it : Interfaces}

/-- A call yields the first name from the place of the iterator on. -/
theorem next_fst (heap : Heap) (it : Interfaces) : (it.next heap).1 = heap.nameAfter it.position 0 := by
  cases hnode : heap.nodeAt it.position with
  | none => rw [next_of_end hnode, Heap.nameAfter_of_end hnode]
  | some node => rw [next_of_node hnode, Heap.nameAfter_zero hnode]

/-- A call moves the iterator one step on. -/
theorem position_next (heap : Heap) (it : Interfaces) : (it.next heap).2.position = heap.advanceBy 1 it.position := by
  cases hnode : heap.nodeAt it.position with
  | none => rw [next_of_end hnode, Heap.advanceBy_succ_of_none hnode]
  | some node => rw [next_of_node hnode, Heap.advanceBy_of_node hnode, Heap.advanceBy]

/-- Calls move the iterator as many steps on, whatever was seen before. -/
theorem position_collect (heap : Heap) (seen : List (Option CString)) (calls : Nat) (it : Interfaces) :
    (collect heap seen calls it).2.position = heap.advanceBy calls it.position := by
  induction calls generalizing seen it with
  | zero => rfl
  | succ calls ih => rw [collect, ih, position_next, Nat.add_comm, Heap.advanceBy_add]

/-- Calls move the iterator as many steps on. -/
theorem position_take (heap : Heap) (calls : Nat) (it : Interfaces) :
    (it.take heap calls).2.position = heap.advanceBy calls it.position :=
  position_collect heap [] calls it

/-- What later calls yield is what they yield from the iterator behind the first call on. -/
theorem yielded_succ (heap : Heap) (it : Interfaces) (calls : Nat) :
    it.yielded heap (calls + 1) = (it.next heap).2.yielded heap calls := by
  rw [yielded, yielded, next_fst, next_fst, position_take, position_take, position_next, ← Heap.advanceBy_add,
    Nat.add_comm]

/-- What calls yield is added call by call to what was seen before. -/
theorem collect_fst (heap : Heap) (seen : List (Option CString)) (calls : Nat) (it : Interfaces) :
    (collect heap seen calls it).1 = seen.reverse ++ (List.range calls).map (it.yielded heap) := by
  induction calls generalizing seen it with
  | zero => rw [collect, List.range_zero, List.map_nil, List.append_nil]
  | succ calls ih =>
    rw [collect, ih, List.reverse_cons, List.append_assoc, List.range_succ_eq_map, List.map_cons, List.map_map]
    refine congrArg (seen.reverse ++ (it.next heap).1 :: ·) (List.map_congr_left fun later _ => ?_)
    exact (yielded_succ heap it later).symm

/-- The calls yield the names of the list from the place of the iterator on. -/
theorem yielded_eq (heap : Heap) (it : Interfaces) (calls : Nat) :
    it.yielded heap calls = (heap.sequence it.position).get? calls := by
  rw [yielded, next_fst, position_take, Heap.get?_sequence, Heap.nameAfter, Heap.nameAfter, Heap.advanceBy]

/-- A call yields nothing exactly when the list has ended there. -/
theorem yielded_eq_none_iff {calls : Nat} :
    it.yielded heap calls = none ↔ heap.nodeAt (heap.advanceBy calls it.position) = none := by
  rw [yielded_eq, ← Heap.terminatedAt_sequence_iff, Stream'.Seq.TerminatedAt]

/-- Calls at the same place of the list yield the same. -/
theorem yielded_congr {first second : Nat} (h : heap.advanceBy first it.position = heap.advanceBy second it.position) :
    it.yielded heap first = it.yielded heap second := by
  rw [yielded, yielded, next_fst, next_fst, position_take, position_take, h]

/-- Over a list that has ended behind so many nodes, and not behind fewer, an iterator ends after as many calls. -/
theorem endsAfter_of_first {count : Nat} (hend : heap.nodeAt (heap.advanceBy count it.position) = none)
    (hfirst : ∀ earlier < count, heap.nodeAt (heap.advanceBy earlier it.position) ≠ none) : it.EndsAfter heap count where
  yields i hi := by
    obtain ⟨node, hnode⟩ := Option.ne_none_iff_exists'.mp (hfirst i hi)
    obtain ⟨id, hid, hat⟩ := Option.bind_eq_some_iff.mp hnode
    refine ⟨id, node, hid, hat, ?_⟩
    rw [yielded_eq, Heap.get?_sequence, Heap.nameAfter, hnode, Option.map_some]
  distinct := by
    -- A place that came twice would bring the end forward by the steps between the two times.
    have hdiffer : ∀ i j, i < j → j < count → heap.advanceBy i it.position ≠ heap.advanceBy j it.position := by
      intro i j hij hj hsame
      have hback := Heap.advanceBy_sub_of_repeat hij hj.le hsame
      exact hfirst (count - (j - i)) (by omega) (hback ▸ hend)
    intro i hi j hj hsame
    rcases lt_trichotomy i j with hlt | heq | hlt
    · exact absurd hsame (hdiffer i j hlt hj)
    · exact heq
    · exact absurd hsame.symm (hdiffer j i hlt hi)
  fused i hi := by
    have hended := Stream'.Seq.terminated_stable _ hi (Heap.terminatedAt_sequence_iff.mpr hend)
    rw [yielded_eq]
    exact hended

/-- Over a list that has not ended behind as many nodes as there are, an iterator repeats the names. -/
theorem exists_repeatsFrom (h : (heap.nodeAt (heap.advanceBy heap.nodes.size it.position)).isSome) :
    ∃ lead period, lead + period ≤ heap.nodes.size ∧ it.RepeatsFrom heap lead period := by
  obtain ⟨i, j, hij, hj, hsame⟩ := Heap.exists_repeat h
  refine ⟨i, j - i, by omega, ⟨by omega, fun calls => ?_, fun calls hcalls => ?_⟩⟩
  · rw [Option.isSome_iff_ne_none, Ne, yielded_eq_none_iff, ← Ne, ← Option.isSome_iff_ne_none]
    exact Heap.isSome_nodeAt_of_size h calls
  · have hback := Heap.advanceBy_sub_of_repeat hij (show j ≤ calls + (j - i) by omega) hsame
    rw [Nat.add_sub_cancel] at hback
    exact (yielded_congr hback).symm

/-- An iterator over the list of a dispatch vector ends after no more calls than there are nodes, whose names it has then
yielded, or repeats names with a lead and a period that are together no more than the nodes. Whether one of as many calls
as there are nodes and one more yields nothing tells whether the list ends. Behind any calls it yields what follows
from the node that it stands on. -/
theorem finite_or_periodic (heap : Heap) (vector : VectorId) :
    let it := ofVector heap vector
    ((∃ count ≤ heap.nodes.size, it.EndsAfter heap count) ∨
        ∃ lead period, lead + period ≤ heap.nodes.size ∧ it.RepeatsFrom heap lead period) ∧
      ((∃ calls < heap.nodes.size + 1, it.yielded heap calls = none) ↔ heap.Ends it.position) ∧
      ∀ calls, (it.take heap calls).1 = (List.range calls).map (it.yielded heap) ∧
        (it.take heap calls).2.position = heap.advanceBy calls it.position ∧
        ∀ later, (it.take heap calls).2.yielded heap later =
          (heap.sequence (it.take heap calls).2.position).get? later := by
  intro it
  refine ⟨?_, ?_, fun calls => ⟨collect_fst heap [] calls it, position_take heap calls it, yielded_eq heap _⟩⟩
  · cases hlast : heap.nodeAt (heap.advanceBy heap.nodes.size it.position) with
    | none =>
      have hends : ∃ count, heap.nodeAt (heap.advanceBy count it.position) = none := ⟨_, hlast⟩
      exact .inl ⟨Nat.find hends, Nat.find_le hlast, endsAfter_of_first (Nat.find_spec hends) fun _ => Nat.find_min hends⟩
    | some node => exact .inr (exists_repeatsFrom (Option.isSome_of_eq_some hlast))
  · constructor
    · rintro ⟨calls, -, hnone⟩
      exact ⟨calls + 1, Heap.advanceBy_succ_of_none (yielded_eq_none_iff.mp hnone)⟩
    · intro hends
      exact ⟨_, Nat.lt_succ_self _, yielded_eq_none_iff.mpr ((Heap.ends_iff le_rfl).mp hends)⟩

end Interfaces

end ObjectModel
