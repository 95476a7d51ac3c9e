import ObjectModel.Access
import ObjectModel.Proofs.Class.Table
import ObjectModel.Proofs.Heap.Listed

/-!
# The interfaces of a class

The interface list of a class has the declared names in order and ends behind them. Looking a name up through the class
is looking for it among all of them, and a lookup within a bound is decided by those that the bound admits. The names
are text and differ from each other, since nothing else passes the checks of a definition.
-/

namespace ObjectModel

/-- A name of at least one byte that is well-formed text without a NUL. -/
structure CString.IsText (name : CString) : Prop where
  nonempty : name.bytes ≠ []
  wellFormed : Utf8.WellFormed name.bytes
  nulFree : 0 ∉ name.bytes

/-- The C string of a text that is not empty is text. -/
theorem CString.isText_of_bytes {name : CString} {text : String} (hbytes : name.bytes = Utf8.bytesOf text)
    (hne : text ≠ "") : name.IsText where
  nonempty hnil := hne (Utf8.bytesOf_injective (hbytes.symm.trans hnil))
  wellFormed := Utf8.wellFormed_iff.mpr ⟨text.toList, hbytes.symm⟩
  nulFree := name.nulFree

/-- A class with intact metadata: its names are text, its interfaces differ, and from the head of its list as many nodes
follow as it counts interfaces before the list ends. -/
structure LoadedClass.Intact (heap : Heap) (c : LoadedClass) : Prop where
  name : c.info.name.IsText
  interfaces : ∀ name ∈ c.interfaces heap, name.IsText
  distinct : (c.interfaces heap).Nodup
  count : (c.interfaces heap).length = c.interfaceCount
  goesOn : ∀ steps < c.interfaceCount,
    heap.nameAfter (c.head heap) steps = (c.interfaces heap)[steps]? ∧
      (heap.nodeAt (heap.advanceBy steps (c.head heap))).isSome
  ends : heap.advanceBy c.interfaceCount (c.head heap) = none
  head : c.head heap = none ↔ c.interfaceCount = 0

namespace LoadedClass.Realizes

variable {heap : Heap} {c : LoadedClass} {i : Nat} {definition : ClassDefinition}

/-- The list of a class has exactly its interfaces. -/
theorem hasNames (h : c.Realizes heap i definition) : heap.HasNames (c.interfaces heap) (c.head heap) := by
  obtain ⟨head, names, hvector, hnames, -⟩ := h.linked
  rw [LoadedClass.interfaces, LoadedClass.head, Heap.vector, hvector, Option.getD_some,
    hnames.names_eq hnames.length_le]
  exact hnames

/-- A class has as many interfaces as it counts. -/
theorem length_interfaces (h : c.Realizes heap i definition) : (c.interfaces heap).length = c.interfaceCount := by
  rw [h.interfaceCount, ← List.length_map CString.bytes, h.interfaces, List.length_map]

/-- A name is an interface of a class exactly when its bytes are those of a declared name. -/
theorem mem_interfaces_iff (h : c.Realizes heap i definition) {name : CString} :
    name ∈ c.interfaces heap ↔ name.bytes ∈ definition.interfaces.map Utf8.bytesOf := by
  rw [← h.interfaces, List.mem_map_of_injective fun _ _ => CString.ext]

/-- A name is among the first interfaces of a class exactly when its bytes are those of such a declared name. -/
theorem mem_take_interfaces_iff (h : c.Realizes heap i definition) {name : CString} {count : Nat} :
    name ∈ (c.interfaces heap).take count ↔ name.bytes ∈ (definition.interfaces.map Utf8.bytesOf).take count := by
  rw [← h.interfaces, ← List.map_take, List.mem_map_of_injective fun _ _ => CString.ext]

/-- A class implements exactly its interfaces. -/
theorem find_eq (h : c.Realizes heap i definition) (name : CString) :
    heap.find name (c.head heap) = some (c.implements heap name) := by
  rw [LoadedClass.implements, h.hasNames.find_eq, Option.getD_some]

/-- A class implements the names on its list and no other. -/
theorem implements_iff (h : c.Realizes heap i definition) {name : CString} :
    c.implements heap name = true ↔ name ∈ c.interfaces heap := by
  rw [LoadedClass.implements, h.hasNames.find_eq, Option.getD_some, decide_eq_true_iff]

/-- A class whose definition has passed its checks is intact. -/
theorem intact (h : c.Realizes heap i definition) {limit : Nat} {checked : CheckedDefinition}
    (hchecked : (definition.check limit).value = .ok checked) : c.Intact heap where
  name := by
    obtain ⟨hname, -⟩ := ClassDefinition.check_eq_ok_iff.mp hchecked
    exact CString.isText_of_bytes h.name (checkedName_eq_ok_iff.mp hname).1
  interfaces name hmem := by
    obtain ⟨-, -, -, hinterfaces, -⟩ := ClassDefinition.check_eq_ok_iff.mp hchecked
    have hbytes : name.bytes ∈ definition.interfaces.map Utf8.bytesOf := h.interfaces ▸ List.mem_map_of_mem hmem
    obtain ⟨text, htext, heq⟩ := List.mem_map.mp hbytes
    exact CString.isText_of_bytes heq.symm (ne_empty_of_mapM_checkedName hinterfaces text htext)
  distinct := by
    obtain ⟨-, -, hnodup, -⟩ := ClassDefinition.check_eq_ok_iff.mp hchecked
    have hbytes := hnodup.map Utf8.bytesOf_injective
    rw [← h.interfaces] at hbytes
    exact hbytes.of_map CString.bytes
  count := h.length_interfaces
  goesOn steps hsteps :=
    ⟨h.hasNames.nameAfter_eq steps, h.hasNames.isSome_nodeAt (h.length_interfaces.symm ▸ hsteps)⟩
  ends := h.length_interfaces ▸ h.hasNames.advanceBy_length
  head := by
    rw [← h.length_interfaces, List.length_eq_zero_iff]
    exact h.hasNames.eq_none_iff

end LoadedClass.Realizes

/-- A checked lookup gives what the bounded search finds, and a fault if that has no answer. -/
theorem Access.value_implementsInterface (heap : Heap) (limit : Nat) (vector : VectorId) (name : CString) :
    (implementsInterface heap limit (some vector) name).value =
      match heap.findWithin name limit (heap.vector vector).head with
      | some found => .ok found
      | none => .error (.walkBoundExceeded limit) := by
  rw [implementsInterface]
  cases heap.findWithin name limit (heap.vector vector).head with
  | none => rfl
  | some found => rfl

/-- A checked lookup through the dispatch vector of a class finds the names among the interfaces that the bound admits,
and otherwise is a fault when the class has more interfaces than that. -/
theorem LoadedClass.Realizes.value_implementsInterface {heap : Heap} {c : LoadedClass} {i : Nat}
    {definition : ClassDefinition} (h : c.Realizes heap i definition) (limit : Nat) (name : CString) :
    (Access.implementsInterface heap limit (some c.vector) name).value =
      if name ∈ (c.interfaces heap).take limit then .ok true
      else if limit < c.interfaceCount then .error (.walkBoundExceeded limit)
      else .ok false := by
  have hsearch := h.hasNames.findWithin_eq name limit
  rw [h.length_interfaces] at hsearch
  rw [Access.value_implementsInterface, ← LoadedClass.head, hsearch]
  by_cases hmem : name ∈ (c.interfaces heap).take limit
  · rw [if_pos hmem, if_pos hmem]
  · rw [if_neg hmem, if_neg hmem]
    by_cases hlt : limit < c.interfaceCount
    · rw [if_pos hlt, if_pos hlt]
    · rw [if_neg hlt, if_neg hlt]

end ObjectModel
