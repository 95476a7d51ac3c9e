import ObjectModel.Heap.Basic

/-!
# Interface lists

A dispatch vector leads to a list of interface nodes. Lists of foreign origin may share nodes and may run in a
circle, so a walk states how many nodes it visits at most. A walk without a bound is one bounded by the number
of all nodes: by then it has met a node for the second time, or the list has ended. Where such a walk neither
finds the name nor ends, the list is a circle without the name.
-/

namespace ObjectModel

/-- A place in an interface list: at a node, or past the end. -/
abbrev Position :=
  Option NodeId

namespace Heap

/-- The node at a place in a list, if the list has not ended there. -/
def nodeAt (heap : Heap) (position : Position) : Option InterfaceNode :=
  position.bind heap.node?

/-- The place reached from the given one in so many steps; there is no step past the end. -/
def advanceBy (heap : Heap) : Nat → Position → Position
  | 0, position => position
  | steps + 1, position =>
    match heap.nodeAt position with
    | none => none
    | some node => advanceBy heap steps node.next

/-- The name at the place reached in so many steps, if the list is that long. -/
def nameAfter (heap : Heap) (position : Position) (steps : Nat) : Option CString :=
  (heap.nodeAt (heap.advanceBy steps position)).map (·.name)

/-- The names of at most so many nodes, after those already collected (latest first). -/
def collectNames (heap : Heap) (collected : List CString) : Nat → Position → List CString
  | 0, _ => collected.reverse
  | limit + 1, position =>
    match heap.nodeAt position with
    | none => collected.reverse
    | some node => collectNames heap (node.name :: collected) limit node.next

/-- The names of at most so many nodes from a place on, in list order. -/
def names (heap : Heap) (limit : Nat) (position : Position) : List CString :=
  heap.collectNames [] limit position

/-- Whether the name is on the list. A list that goes on after `limit` nodes without the name gives no
answer. -/
def findWithin (heap : Heap) (name : CString) : Nat → Position → Option Bool
  | 0, position => if (heap.nodeAt position).isSome then none else some false
  | limit + 1, position =>
    match heap.nodeAt position with
    | none => some false
    | some node => if node.name = name then some true else findWithin heap name limit node.next

/-- Whether the name is on the list, with no bound on the nodes visited; a circle without the name gives no
answer. -/
def find (heap : Heap) (name : CString) (position : Position) : Option Bool :=
  heap.findWithin name heap.nodes.size position

/-- Reading on from names already collected puts them in front. -/
theorem collectNames_eq (heap : Heap) (collected : List CString) (limit : Nat) (position : Position) :
    heap.collectNames collected limit position = collected.reverse ++ heap.names limit position := by
  unfold names
  induction limit generalizing collected position with
  | zero => simp [collectNames]
  | succ limit ih =>
    simp only [collectNames]
    split
    · simp
    · rw [ih, ih [_]]
      simp

/-- No nodes, no names. -/
@[simp] theorem names_zero (heap : Heap) (position : Position) : heap.names 0 position = [] := rfl

/-- Past the end of a list there are no names. -/
theorem names_of_end {heap : Heap} {position : Position} (h : heap.nodeAt position = none) (limit : Nat) :
    heap.names limit position = [] := by
  cases limit <;> simp [names, collectNames, h]

/-- The names from a node on are its own name and those from its successor on. -/
theorem names_of_node {heap : Heap} {position : Position} {node : InterfaceNode}
    (h : heap.nodeAt position = some node) (limit : Nat) :
    heap.names (limit + 1) position = node.name :: heap.names limit node.next := by
  rw [names, collectNames, h]
  simp [collectNames_eq]

end Heap

/-- An iterator over the names of an interface list. -/
structure Interfaces where
  position : Position
  deriving DecidableEq, Repr

namespace Interfaces

/-- An iterator at the head of the list of a dispatch vector. -/
def ofVector (heap : Heap) (vector : VectorId) : Interfaces :=
  ⟨(heap.vector vector).head⟩

/-- The next name, and the iterator after it. Past the end the iterator stays there. -/
def next (heap : Heap) (it : Interfaces) : Option CString × Interfaces :=
  match heap.nodeAt it.position with
  | none => (none, ⟨none⟩)
  | some node => (some node.name, ⟨node.next⟩)

/-- What so many calls of `next` yield, after what earlier calls did (latest first), and the iterator then. -/
def collect (heap : Heap) (seen : List (Option CString)) : Nat → Interfaces → List (Option CString) × Interfaces
  | 0, it => (seen.reverse, it)
  | count + 1, it => collect heap ((it.next heap).1 :: seen) count (it.next heap).2

/-- What so many calls of `next` yield, and the iterator then. -/
def take (heap : Heap) (count : Nat) (it : Interfaces) : List (Option CString) × Interfaces :=
  collect heap [] count it

end Interfaces

end ObjectModel
