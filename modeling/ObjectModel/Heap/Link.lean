import ObjectModel.Heap.Walk

/-!
# Linking a class

A class is built by laying its interface nodes one after the other, each leading to the one behind it and the
last one nowhere, and by a dispatch vector that leads to the first of them. A class without interfaces has no
nodes and its list no head.
-/

namespace ObjectModel

/-- The nodes for the given names when the first of them is at address `base`. -/
def InterfaceNode.chain (base : Nat) (names : List CString) : List InterfaceNode :=
  let count := names.length
  names.zipIdx.map fun (name, i) => ⟨name, if i + 1 < count then some ⟨base + i + 1⟩ else none⟩

/-- Adds the nodes and the dispatch vector of a class with the given interfaces, in order. -/
def Heap.link (heap : Heap) (names : List CString) (metadata : Metadata) : Heap × VectorId :=
  let head := if names.isEmpty then none else some ⟨heap.nodes.size⟩
  (heap.addNodes (InterfaceNode.chain heap.nodes.size names)).addVector ⟨head, metadata⟩

/-- One node for each name. -/
@[simp] theorem InterfaceNode.length_chain (base : Nat) (names : List CString) :
    (chain base names).length = names.length := by
  simp [chain]

/-- Each node has the name at its position and leads to the node behind it, if there is one. -/
theorem InterfaceNode.getElem?_chain (base : Nat) (names : List CString) (i : Nat) :
    (chain base names)[i]? =
      names[i]?.map fun name => ⟨name, if i + 1 < names.length then some ⟨base + i + 1⟩ else none⟩ := by
  rw [chain, List.getElem?_map, List.getElem?_zipIdx, Option.map_map]
  simp only [Nat.zero_add, Function.comp_def]

end ObjectModel
