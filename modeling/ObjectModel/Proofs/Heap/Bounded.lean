import Mathlib.Logic.Relation
import ObjectModel.Proofs.Heap.Sequence

/-!
# Bounded searches

A bounded search is answered by the first names of a list, as many as the bound admits, and has no answer when there are
more of them without the name. It passes one node in each round and counts the nodes in a word. The count stays within
the bound, so it does not wrap around and the search comes to an end.
-/

namespace ObjectModel

/-- A bounded search on its way: the place that it has come to, and the number of nodes that it has visited. -/
structure BoundedSearch where
  position : Position
  visited : UInt64

namespace BoundedSearch

/-- A search that has visited no node. -/
def startAt (position : Position) : BoundedSearch :=
  ⟨position, 0⟩

/-- The answer that a search stops with, or the search behind one more node. The end of the list is looked for first,
then the bound, and then the name. -/
def round (heap : Heap) (name : CString) (limit : UInt64) (search : BoundedSearch) : Option Bool ⊕ BoundedSearch :=
  match heap.nodeAt search.position with
  | none => .inl (some false)
  | some node =>
    if search.visited = limit then .inl none
    else if node.name = name then .inl (some true)
    else .inr ⟨node.next, search.visited + 1⟩

/-- A search comes to another one in some number of rounds. -/
def Reaches (heap : Heap) (name : CString) (limit : UInt64) : BoundedSearch → BoundedSearch → Prop :=
  Relation.ReflTransGen fun search next => search.round heap name limit = .inr next

/-- A search that started at a place is behind as many nodes as it counts, which are within the bound, and what is left of
the bound decides it as all of the bound decides it from the start. -/
structure Follows (heap : Heap) (name : CString) (limit : UInt64) (position : Position) (search : BoundedSearch) :
    Prop where
  within : search.visited ≤ limit
  place : search.position = heap.advanceBy search.visited.toNat position
  answer : heap.findWithin name (limit.toNat - search.visited.toNat) search.position =
    heap.findWithin name limit.toNat position

variable {heap : Heap} {name : CString} {limit : UInt64} {position : Position} {search next : BoundedSearch}

/-- A search goes on from a node that is within the bound and has another name. -/
theorem round_eq_inr_iff : search.round heap name limit = .inr next ↔
    ∃ node, heap.nodeAt search.position = some node ∧ search.visited ≠ limit ∧ node.name ≠ name ∧
      next = ⟨node.next, search.visited + 1⟩ := by
  rw [round]
  cases heap.nodeAt search.position with
  | none => simp
  | some node =>
    dsimp only
    by_cases hlimit : search.visited = limit
    · simp [hlimit]
    · by_cases hname : node.name = name
      · simp [hlimit, hname]
      · simp [hlimit, hname, @eq_comm _ next]

/-- A count that is within the bound and is not the bound is below it. -/
theorem Follows.visited_lt (h : search.Follows heap name limit position) (hne : search.visited ≠ limit) :
    search.visited.toNat < limit.toNat :=
  Nat.lt_of_le_of_ne h.within fun heq => hne (UInt64.toNat_inj.mp heq)

/-- A count below the bound goes up by one without wrapping around. -/
theorem toNat_visited_succ (h : search.visited.toNat < limit.toNat) :
    (search.visited + 1).toNat = search.visited.toNat + 1 := by
  have hbound := limit.toNat_lt
  rw [UInt64.toNat_add, UInt64.toNat_one, Nat.mod_eq_of_lt (by omega)]

/-- A search that has visited no node follows itself. -/
theorem follows_startAt (heap : Heap) (name : CString) (limit : UInt64) (position : Position) :
    (startAt position).Follows heap name limit position where
  within := UInt64.zero_le
  place := rfl
  answer := rfl

/-- A round keeps a search on its way and counts one node. -/
theorem Follows.step (h : search.Follows heap name limit position) (hround : search.round heap name limit = .inr next) :
    next.Follows heap name limit position ∧ next.visited.toNat = search.visited.toNat + 1 := by
  obtain ⟨node, hnode, hne, hname, rfl⟩ := round_eq_inr_iff.mp hround
  have hlt := h.visited_lt hne
  have hcount := toNat_visited_succ hlt
  refine ⟨⟨?_, ?_, ?_⟩, hcount⟩
  · rw [UInt64.le_iff_toNat_le, hcount]
    exact hlt
  · rw [hcount, Heap.advanceBy_add, ← h.place, Heap.advanceBy_of_node hnode, Heap.advanceBy]
  · rw [← h.answer, hcount, show limit.toNat - search.visited.toNat = limit.toNat - (search.visited.toNat + 1) + 1 by omega,
      Heap.findWithin_of_node hnode, if_neg hname]

/-- Every search on the way of one that has visited no node follows it. -/
theorem Reaches.follows (h : (startAt position).Reaches heap name limit search) :
    search.Follows heap name limit position := by
  induction h with
  | refl => exact follows_startAt heap name limit position
  | tail _ hround ih => exact (ih.step hround).1

/-- A search that stops gives the answer of the search from the start within all of the bound. -/
theorem Follows.eq_of_stop (h : search.Follows heap name limit position) {answer : Option Bool}
    (hround : search.round heap name limit = .inl answer) : answer = heap.findWithin name limit.toNat position := by
  rw [← h.answer]
  rw [round] at hround
  cases hnode : heap.nodeAt search.position with
  | none =>
    rw [hnode] at hround
    cases hround
    exact (Heap.findWithin_of_end hnode _).symm
  | some node =>
    rw [hnode] at hround
    dsimp only at hround
    by_cases hlimit : search.visited = limit
    · rw [if_pos hlimit] at hround
      cases hround
      rw [hlimit, Nat.sub_self, Heap.findWithin, if_pos (Option.isSome_of_eq_some hnode)]
    · have hlt := h.visited_lt hlimit
      rw [if_neg hlimit] at hround
      by_cases hname : node.name = name
      · rw [if_pos hname] at hround
        cases hround
        rw [show limit.toNat - search.visited.toNat = limit.toNat - search.visited.toNat - 1 + 1 by omega,
          Heap.findWithin_of_node hnode, if_pos hname]
      · rw [if_neg hname] at hround
        cases hround

/-- A search on its way comes to a stop, since each round leaves less of the bound. -/
theorem Follows.exists_stop (h : search.Follows heap name limit position) :
    ∃ last, search.Reaches heap name limit last ∧
      last.round heap name limit = .inl (heap.findWithin name limit.toNat position) := by
  induction hleft : limit.toNat - search.visited.toNat using Nat.strongRecOn generalizing search with
  | ind left ih =>
    cases hround : search.round heap name limit with
    | inl answer => exact ⟨search, .refl, h.eq_of_stop hround ▸ hround⟩
    | inr next =>
      obtain ⟨hnext, hcount⟩ := h.step hround
      have hwithin : next.visited.toNat ≤ limit.toNat := hnext.within
      obtain ⟨last, hreaches, hlast⟩ := ih _ (by omega) hnext rfl
      exact ⟨last, .head hround hreaches, hlast⟩

end BoundedSearch

namespace Heap

/-- A search from a place on within a bound is answered by the names that follow from there, and is carried out round by
round. -/
structure AnswersFromFirst (heap : Heap) (position : Position) (name : CString) (limit : UInt64) : Prop where
  /-- It finds the names among the first ones, as many as the bound says. -/
  found : heap.findWithin name limit.toNat position = some true ↔ name ∈ (heap.sequence position).take limit.toNat
  /-- It has no answer when there are more names than the bound says and the name is not among the first ones. -/
  unknown : heap.findWithin name limit.toNat position = none ↔
    limit.toNat < (heap.sequence position).length' ∧ name ∉ (heap.sequence position).take limit.toNat
  /-- It denies a name when there are no more names than the bound says, and none of them is the name. -/
  absent : heap.findWithin name limit.toNat position = some false ↔
    (heap.sequence position).length' ≤ limit.toNat ∧ name ∉ heap.sequence position
  /-- It comes to a stop after some number of rounds, with this answer. -/
  stops : ∃ last, (BoundedSearch.startAt position).Reaches heap name limit last ∧
    last.round heap name limit = .inl (heap.findWithin name limit.toNat position)
  /-- In no round does its count exceed the bound, and each round that goes on makes it one larger. -/
  counts : ∀ search, (BoundedSearch.startAt position).Reaches heap name limit search →
    search.visited ≤ limit ∧ ∀ next, search.round heap name limit = .inr next →
      next.visited.toNat = search.visited.toNat + 1
  /-- An answer stays the same under every larger bound. -/
  settled : ∀ larger, limit ≤ larger → ∀ answer, heap.findWithin name limit.toNat position = some answer →
    heap.findWithin name larger.toNat position = some answer

variable {heap : Heap} {position : Position} {name : CString} {limit : Nat}

/-- A bounded search finds the names among the first ones, as many as the bound says. -/
theorem findWithin_eq_true_iff_mem_take :
    heap.findWithin name limit position = some true ↔ name ∈ (heap.sequence position).take limit :=
  findWithin_eq_some_true_iff.trans mem_take_sequence_iff.symm

/-- There are no more names than the bound says exactly when the list has ended behind so many nodes. -/
theorem length'_sequence_le_iff :
    (heap.sequence position).length' ≤ limit ↔ heap.nodeAt (heap.advanceBy limit position) = none :=
  Stream'.Seq.length'_le_iff.trans terminatedAt_sequence_iff

/-- Of a list that has ended within the bound the first names are all names. -/
theorem mem_take_sequence_iff_of_le (h : (heap.sequence position).length' ≤ limit) :
    name ∈ (heap.sequence position).take limit ↔ name ∈ heap.sequence position := by
  rw [mem_take_sequence_iff, mem_sequence_iff]
  constructor
  · rintro ⟨steps, -, hmet⟩
    exact ⟨steps, hmet⟩
  · rintro ⟨steps, hmet⟩
    refine ⟨steps, Nat.lt_of_not_le fun hle => ?_, hmet⟩
    have hended := Stream'.Seq.terminated_stable _ hle (Stream'.Seq.length'_le_iff.mp h)
    rw [Stream'.Seq.TerminatedAt, get?_sequence, hmet] at hended
    cases hended

/-- What a bounded search comes to: the name is among the first ones, or it is not and there are more, or it is none of
the names. -/
theorem findWithin_cases_first (heap : Heap) (position : Position) (name : CString) (limit : Nat) :
    (heap.findWithin name limit position = some true ∧ name ∈ (heap.sequence position).take limit) ∨
      (heap.findWithin name limit position = none ∧ limit < (heap.sequence position).length' ∧
        name ∉ (heap.sequence position).take limit) ∨
      (heap.findWithin name limit position = some false ∧ (heap.sequence position).length' ≤ limit ∧
        name ∉ (heap.sequence position).take limit) := by
  by_cases hmet : heap.findWithin name limit position = some true
  · exact .inl ⟨hmet, findWithin_eq_true_iff_mem_take.mp hmet⟩
  · have hmissed := mt findWithin_eq_true_iff_mem_take.mpr hmet
    have hanswer := findWithin_eq_of_not_met hmet
    rcases lt_or_ge (limit : ℕ∞) (heap.sequence position).length' with hmore | hfew
    · rw [← not_le, length'_sequence_le_iff] at hmore
      rw [if_pos (Option.isSome_iff_ne_none.mpr hmore)] at hanswer
      exact .inr (.inl ⟨hanswer, not_le.mp (mt length'_sequence_le_iff.mp hmore), hmissed⟩)
    · rw [length'_sequence_le_iff.mp hfew] at hanswer
      exact .inr (.inr ⟨hanswer, hfew, hmissed⟩)

/-- A bounded search with an answer gives it under every larger bound. -/
theorem findWithin_mono {answer : Bool} (h : heap.findWithin name limit position = some answer) {larger : Nat}
    (hle : limit ≤ larger) : heap.findWithin name larger position = some answer := by
  obtain ⟨visited, hvisited, hsearch⟩ := Interfaces.search_of_findWithin h
  exact hsearch.findWithin_eq (hvisited.trans hle)

/-- A bounded search through the list of a dispatch vector answers from its first names only, whatever the list: it comes
to a stop, its count does not exceed the bound, and its answer does not change when the bound grows. -/
theorem findWithin_answersFromFirst (heap : Heap) (vector : VectorId) (name : CString) (limit : UInt64) :
    heap.AnswersFromFirst (heap.vector vector).head name limit where
  found := findWithin_eq_true_iff_mem_take
  unknown := by
    rcases findWithin_cases_first heap (heap.vector vector).head name limit.toNat with
      ⟨h, hmem⟩ | ⟨h, hmore, hmem⟩ | ⟨h, hfew, hmem⟩
    · simp [h, hmem]
    · simp [h, hmore, hmem]
    · simp [h, not_lt.mpr hfew]
  absent := by
    rcases findWithin_cases_first heap (heap.vector vector).head name limit.toNat with
      ⟨h, hmem⟩ | ⟨h, hmore, hmem⟩ | ⟨h, hfew, hmem⟩
    · rw [h]
      refine iff_of_false (fun heq => nomatch heq) fun ⟨hfew, hmissing⟩ => ?_
      exact hmissing ((mem_take_sequence_iff_of_le hfew).mp hmem)
    · simp [h, not_le.mpr hmore]
    · simp [h, hfew, ← mem_take_sequence_iff_of_le hfew, hmem]
  stops := (BoundedSearch.follows_startAt heap name limit _).exists_stop
  counts search hreaches := ⟨hreaches.follows.within, fun next hround => (hreaches.follows.step hround).2⟩
  settled larger hle answer h := findWithin_mono h hle

/-- A bound of zero gives an answer for the empty list only, and a bound of one reaches the last of one node. -/
example :
    let name : CString := ⟨[97], by decide⟩
    let heap : Heap := ⟨#[⟨name, none⟩], #[⟨some ⟨0⟩, .absent⟩, .empty], #[]⟩
    heap.findWithin name 0 (heap.vector ⟨1⟩).head = some false ∧ heap.findWithin name 0 (heap.vector ⟨0⟩).head = none ∧
      heap.findWithin name 1 (heap.vector ⟨0⟩).head = some true := by
  decide

end Heap

end ObjectModel
