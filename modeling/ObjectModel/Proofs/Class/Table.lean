import ObjectModel.Proofs.Class.Load
import ObjectModel.Proofs.Heap.Link
import ObjectModel.Proofs.Text.Utf8

/-!
# A table is a list of accepted definitions

The two maps of a table, the type information behind its dispatch vectors and the interface lists on the heap all stay
in step with the list of the definitions that were loaded. So every lookup finds what its place in that list says.
-/

namespace ObjectModel

/-- A class with its metadata on the heap is what a definition at a position in load order asks for. -/
structure LoadedClass.Realizes (heap : Heap) (c : LoadedClass) (i : Nat) (definition : ClassDefinition) : Prop where
  id : c.info.id = ⟨i⟩
  name : c.info.name.bytes = Utf8.bytesOf definition.name
  kind : c.info.kind = definition.kind
  interfaceCount : c.interfaceCount = definition.interfaces.length
  linked : ∃ head names, heap.vectors[c.vector.index]? = some ⟨head, .ofClass c.info⟩ ∧ heap.HasNames names head ∧
    names.map CString.bytes = definition.interfaces.map Utf8.bytesOf

/-- A table holds the accepted definitions in order: the entry at each position is under the name of its class and
realizes the definition there, and the vector map leads from the dispatch vectors of these classes to their ids. -/
structure ClassTable.Represents (heap : Heap) (table : ClassTable) (accepted : List ClassDefinition) : Prop where
  size : table.size = accepted.length
  entry : ∀ (i : Nat) key c, table.byName.entries[i]? = some (key, c) →
    key = c.info.name ∧ ∃ definition, accepted[i]? = some definition ∧ c.Realizes heap i definition
  vector : ∀ v id, table.idOfVector[v]? = some id ↔ ∃ c, table.byId? id = some c ∧ c.vector = v

/-- What can be seen of a table is a list of definitions: their number, at each position one class that every lookup
finds and that is what the definition there asks for, and nothing for any other id, name or address. -/
structure ClassTable.Refines (heap : Heap) (table : ClassTable) (accepted : List ClassDefinition) : Prop where
  size : table.size = accepted.length
  isEmpty : table.isEmpty = true ↔ accepted = []
  classes : table.classes.length = accepted.length
  found : ∀ (i : Nat) definition, accepted[i]? = some definition →
    ∃ c, table.byId? ⟨i⟩ = some c ∧ table.byString? definition.name = some c ∧
      (∀ name : CString, name.bytes = Utf8.bytesOf definition.name → table.byName? name = some c) ∧
      table.byVector? c.vector = some c ∧ table.classes[i]? = some c ∧
      c.info.id = ⟨i⟩ ∧ c.info.name.bytes = Utf8.bytesOf definition.name ∧ c.info.kind = definition.kind ∧
      (c.interfaces heap).map CString.bytes = definition.interfaces.map Utf8.bytesOf ∧
      c.interfaceCount = definition.interfaces.length ∧ c.isLinked heap = true
  otherId : ∀ id : ClassId, accepted.length ≤ id.index → table.byId? id = none
  otherName : ∀ name : CString, (∀ definition ∈ accepted, name.bytes ≠ Utf8.bytesOf definition.name) →
    table.byName? name = none
  otherText : ∀ text : String, (∀ definition ∈ accepted, text ≠ definition.name) → table.byString? text = none
  textWithNul : ∀ text : String, 0 ∈ Utf8.bytesOf text → table.byString? text = none
  otherVector : ∀ pointer : Option VectorId, (∀ id c, table.byId? id = some c → pointer ≠ some c.vector) →
    pointer.bind table.byVector? = none

namespace LoadedClass.Realizes

variable {heap later : Heap} {c : LoadedClass} {i : Nat} {definition : ClassDefinition}

/-- A class stays what it is when the heap grows. -/
theorem mono (h : c.Realizes heap i definition) (hgrows : heap.Grows later) : c.Realizes later i definition := by
  obtain ⟨head, names, hvector, hnames, hbytes⟩ := h.linked
  exact { h with linked := ⟨head, names, hgrows.vectors _ _ hvector, hnames.mono hgrows, hbytes⟩ }

/-- The dispatch vector of a class leads to the type information of that class. -/
theorem isLinked (h : c.Realizes heap i definition) : c.isLinked heap = true := by
  obtain ⟨head, names, hvector, -⟩ := h.linked
  rw [LoadedClass.isLinked, Heap.vector, hvector, Option.getD_some]
  exact decide_eq_true rfl

/-- The dispatch vector of a class is on the heap. -/
theorem vector_lt (h : c.Realizes heap i definition) : c.vector.index < heap.vectors.size := by
  obtain ⟨head, names, hvector, -⟩ := h.linked
  exact (Array.getElem?_eq_some_iff.mp hvector).1

/-- The interface list of a class yields the interfaces of the definition, in order. -/
theorem interfaces (h : c.Realizes heap i definition) :
    (c.interfaces heap).map CString.bytes = definition.interfaces.map Utf8.bytesOf := by
  obtain ⟨head, names, hvector, hnames, hbytes⟩ := h.linked
  rw [LoadedClass.interfaces, LoadedClass.head, Heap.vector, hvector, Option.getD_some, hnames.names_eq hnames.length_le,
    hbytes]

end LoadedClass.Realizes

namespace ClassTable

variable {heap later : Heap} {table : ClassTable} {accepted : List ClassDefinition} {c : LoadedClass}

/-- A class at a position is that of the entry there. -/
theorem byId?_eq_some_iff {id : ClassId} :
    table.byId? id = some c ↔ ∃ key, table.byName.entries[id.index]? = some (key, c) := by
  rw [byId?, OrderedMap.getAt?, Option.map_eq_some_iff]
  constructor
  · rintro ⟨⟨key, _⟩, hentry, rfl⟩
    exact ⟨key, hentry⟩
  · rintro ⟨key, hentry⟩
    exact ⟨_, hentry, rfl⟩

/-- A class of a name is that of an entry under the name. -/
theorem byName?_eq_some_iff {name : CString} :
    table.byName? name = some c ↔ ∃ i : Nat, table.byName.entries[i]? = some (name, c) := by
  rw [byName?, OrderedMap.get?_eq_some_iff]
  exact List.mem_iff_getElem?

/-- The classes in order are those at the positions. -/
theorem getElem?_classes (table : ClassTable) (i : Nat) : table.classes[i]? = table.byId? ⟨i⟩ := by
  rw [classes, OrderedMap.values, List.getElem?_map, byId?, OrderedMap.getAt?]

/-- The classes are those at some position. -/
theorem mem_classes_iff : c ∈ table.classes ↔ ∃ id, table.byId? id = some c := by
  rw [List.mem_iff_getElem?]
  constructor
  · rintro ⟨i, hi⟩
    exact ⟨⟨i⟩, (table.getElem?_classes i).symm.trans hi⟩
  · rintro ⟨id, hid⟩
    exact ⟨id.index, (table.getElem?_classes id.index).trans hid⟩

/-- A class found by a name is one of the classes. -/
theorem mem_classes_of_byName? {name : CString} (h : table.byName? name = some c) : c ∈ table.classes := by
  obtain ⟨i, hi⟩ := byName?_eq_some_iff.mp h
  exact mem_classes_iff.mpr ⟨⟨i⟩, byId?_eq_some_iff.mpr ⟨name, hi⟩⟩

namespace Represents

/-- A table without classes holds no definitions. -/
theorem empty (heap : Heap) : Represents heap .empty [] where
  size := rfl
  entry i key c h := by
    rw [ClassTable.empty, OrderedMap.empty, List.getElem?_nil] at h
    cases h
  vector v id := by simp [ClassTable.empty, byId?, OrderedMap.getAt?, OrderedMap.empty]

/-- A table keeps its definitions when the heap grows. -/
theorem mono (h : Represents heap table accepted) (hgrows : heap.Grows later) : Represents later table accepted where
  size := h.size
  entry i key c hentry := by
    obtain ⟨hkey, definition, hdefinition, hrealizes⟩ := h.entry i key c hentry
    exact ⟨hkey, definition, hdefinition, hrealizes.mono hgrows⟩
  vector := h.vector

/-- There is a class at every position in the list. -/
theorem exists_byId? (h : Represents heap table accepted) {i : Nat} {definition : ClassDefinition}
    (hi : accepted[i]? = some definition) : ∃ c, table.byId? ⟨i⟩ = some c ∧ c.Realizes heap i definition := by
  have hlt : i < table.size := h.size ▸ (List.getElem?_eq_some_iff.mp hi).1
  have hentry : table.byName.entries[i]? = some table.byName.entries[i] := List.getElem?_eq_getElem hlt
  obtain ⟨-, other, hother, hrealizes⟩ := h.entry i _ _ hentry
  cases hi.symm.trans hother
  exact ⟨_, byId?_eq_some_iff.mpr ⟨_, hentry⟩, hrealizes⟩

/-- A class of the table realizes the definition at its position. -/
theorem of_byId? (h : Represents heap table accepted) {id : ClassId} (hc : table.byId? id = some c) :
    ∃ definition, accepted[id.index]? = some definition ∧ c.Realizes heap id.index definition := by
  obtain ⟨key, hentry⟩ := byId?_eq_some_iff.mp hc
  exact (h.entry _ _ _ hentry).2

/-- A class of the table is at the position that its id says and realizes the definition there. -/
theorem of_mem (h : Represents heap table accepted) (hc : c ∈ table.classes) :
    table.byId? c.info.id = some c ∧
      ∃ definition, accepted[c.info.id.index]? = some definition ∧ c.Realizes heap c.info.id.index definition := by
  obtain ⟨id, hid⟩ := mem_classes_iff.mp hc
  obtain ⟨definition, hdefinition, hrealizes⟩ := h.of_byId? hid
  rw [hrealizes.id]
  exact ⟨hid, definition, hdefinition, hrealizes⟩

/-- A class at a position is found by its name and by its dispatch vector. -/
theorem lookups (h : Represents heap table accepted) {id : ClassId} (hc : table.byId? id = some c) :
    table.byName? c.info.name = some c ∧ table.byVector? c.vector = some c := by
  constructor
  · obtain ⟨key, hentry⟩ := byId?_eq_some_iff.mp hc
    obtain ⟨rfl, -⟩ := h.entry _ _ _ hentry
    exact byName?_eq_some_iff.mpr ⟨_, hentry⟩
  · rw [byVector?, (h.vector c.vector id).mpr ⟨c, hc, rfl⟩, Option.bind_some, hc]

/-- A class found by a name has that name, which is the name of some definition. -/
theorem of_byName? (h : Represents heap table accepted) {name : CString} (hc : table.byName? name = some c) :
    c.info.name = name ∧ ∃ definition ∈ accepted, name.bytes = Utf8.bytesOf definition.name := by
  obtain ⟨i, hentry⟩ := byName?_eq_some_iff.mp hc
  obtain ⟨rfl, definition, hdefinition, hrealizes⟩ := h.entry _ _ _ hentry
  exact ⟨rfl, definition, List.mem_of_getElem? hdefinition, hrealizes.name⟩

/-- A class found by a dispatch vector has that dispatch vector and is at some position. -/
theorem of_byVector? (h : Represents heap table accepted) {v : VectorId} (hc : table.byVector? v = some c) :
    c.vector = v ∧ ∃ id, table.byId? id = some c := by
  obtain ⟨id, hid, hclass⟩ := Option.bind_eq_some_iff.mp hc
  obtain ⟨other, hother, hvector⟩ := (h.vector v id).mp hid
  cases hclass.symm.trans hother
  exact ⟨hvector, id, hclass⟩

/-- There is no class behind the last position in the list. -/
theorem byId?_eq_none (h : Represents heap table accepted) {id : ClassId} (hid : accepted.length ≤ id.index) :
    table.byId? id = none := by
  apply Option.eq_none_iff_forall_ne_some.mpr
  intro c hc
  obtain ⟨definition, hdefinition, -⟩ := h.of_byId? hc
  exact Nat.not_lt.mpr hid (List.getElem?_eq_some_iff.mp hdefinition).1

/-- There is no class of a name that no definition has. -/
theorem byName?_eq_none (h : Represents heap table accepted) {name : CString}
    (hname : ∀ definition ∈ accepted, name.bytes ≠ Utf8.bytesOf definition.name) : table.byName? name = none := by
  apply Option.eq_none_iff_forall_ne_some.mpr
  intro c hc
  obtain ⟨-, definition, hmem, hbytes⟩ := h.of_byName? hc
  exact hname definition hmem hbytes

/-- There is no class whose name is a text that no definition has for a name. -/
theorem byString?_eq_none (h : Represents heap table accepted) {text : String}
    (htext : ∀ definition ∈ accepted, text ≠ definition.name) : table.byString? text = none := by
  rw [byString?]
  cases hname : CString.ofString? text with
  | none => rfl
  | some name =>
    apply h.byName?_eq_none
    intro definition hmem hbytes
    apply htext definition hmem
    exact Utf8.bytesOf_injective ((CString.ofString?_eq_some_iff.mp hname).symm.trans hbytes)

/-- A table that holds a list of definitions shows that list. -/
theorem refines (h : Represents heap table accepted) : Refines heap table accepted where
  size := h.size
  isEmpty := by
    rw [isEmpty, decide_eq_true_iff, h.size, List.length_eq_zero_iff]
  classes := (List.length_map Prod.snd).trans h.size
  found i definition hi := by
    obtain ⟨c, hc, hrealizes⟩ := h.exists_byId? hi
    obtain ⟨hname, hvector⟩ := h.lookups hc
    have hbyName : ∀ name : CString, name.bytes = Utf8.bytesOf definition.name → table.byName? name = some c :=
      fun name hbytes => CString.ext (hrealizes.name.trans hbytes.symm) ▸ hname
    have hbyString : table.byString? definition.name = some c := by
      rw [byString?, CString.ofString?_eq_some_iff.mpr hrealizes.name, Option.bind_some, hname]
    exact ⟨c, hc, hbyString, hbyName, hvector, (table.getElem?_classes i).trans hc, hrealizes.id, hrealizes.name,
      hrealizes.kind, hrealizes.interfaces, hrealizes.interfaceCount, hrealizes.isLinked⟩
  otherId _ := h.byId?_eq_none
  otherName _ := h.byName?_eq_none
  otherText _ := h.byString?_eq_none
  textWithNul text htext := by
    rw [byString?, CString.ofString?, CString.ofBytes?_eq_none_iff.mpr htext, Option.bind_none]
  otherVector pointer hpointer := by
    cases pointer with
    | none => rfl
    | some v =>
      rw [Option.bind_some]
      apply Option.eq_none_iff_forall_ne_some.mpr
      intro c hc
      obtain ⟨rfl, id, hid⟩ := h.of_byVector? hc
      exact hpointer id c hid rfl

end Represents

section Insert

variable {limit : Nat} {definition : ClassDefinition} {checked : CheckedDefinition}

/-- The class that is inserted for a checked definition realizes it at the next position. -/
theorem Represents.realizes_newest (h : Represents heap table accepted)
    (hchecked : (definition.check limit).value = .ok checked) :
    (table.insert heap checked).newest.Realizes (table.insert heap checked).heap accepted.length definition := by
  obtain ⟨hname, -, -, hinterfaces, hkind⟩ := ClassDefinition.check_eq_ok_iff.mp hchecked
  have hbytes := bytes_of_mapM_checkedName hinterfaces
  obtain ⟨head, hvector, hnames⟩ := heap.hasNames_link checked.interfaces (.ofClass (table.insert heap checked).newest.info)
  have hcount : checked.interfaces.length = definition.interfaces.length := by
    rw [← List.length_map CString.bytes, hbytes, List.length_map]
  exact ⟨congrArg ClassId.mk h.size, (checkedName_eq_ok_iff.mp hname).2, hkind, hcount,
    head, checked.interfaces, hvector, hnames, hbytes⟩

/-- The entry of an inserted class goes behind all others. -/
theorem entries_insert (hnew : table.byName? checked.name = none) :
    (table.insert heap checked).table.byName.entries =
      table.byName.entries ++ [(checked.name, (table.insert heap checked).newest)] :=
  OrderedMap.entries_insert_of_notMem (OrderedMap.get?_eq_none_iff.mp hnew) _

/-- An inserted class goes behind all others. -/
theorem classes_insert (hnew : table.byName? checked.name = none) :
    (table.insert heap checked).table.classes = table.classes ++ [(table.insert heap checked).newest] := by
  rw [classes, OrderedMap.values, entries_insert hnew, List.map_append]
  rfl

/-- After an insertion the next position has the new class and every other one what it had. -/
theorem byId?_insert (hnew : table.byName? checked.name = none) (id : ClassId) :
    (table.insert heap checked).table.byId? id =
      if id.index = table.size then some (table.insert heap checked).newest else table.byId? id := by
  rw [byId?, OrderedMap.getAt?, entries_insert hnew, List.getElem?_append]
  change (if id.index < table.size then _ else _ : Option (CString × LoadedClass)).map _ = _
  split
  · next hlt => rw [if_neg (Nat.ne_of_lt hlt), byId?, OrderedMap.getAt?]
  · next hge =>
    split
    · next heq =>
      rw [show id.index - table.byName.entries.length = 0 from Nat.sub_eq_zero_of_le (Nat.le_of_eq heq)]
      rfl
    · next hne =>
      have hbehind : table.size < id.index := Nat.lt_of_le_of_ne (Nat.not_lt.mp hge) (Ne.symm hne)
      rw [byId?, OrderedMap.getAt?, List.getElem?_eq_none (Nat.le_of_lt hbehind),
        List.getElem?_eq_none (Nat.le_sub_of_add_le (Nat.add_comm _ 1 ▸ hbehind))]

/-- The dispatch vector of an inserted class is that of no class before it. -/
theorem Represents.vector_ne_newest (h : Represents heap table accepted) {id : ClassId}
    (hc : table.byId? id = some c) : c.vector ≠ (table.insert heap checked).newest.vector := by
  obtain ⟨definition, -, hrealizes⟩ := h.of_byId? hc
  exact fun heq => Nat.ne_of_lt hrealizes.vector_lt (congrArg VectorId.index heq)

/-- Inserting a checked definition under a new name puts it behind the definitions that a table holds. -/
theorem Represents.insert (h : Represents heap table accepted)
    (hchecked : (definition.check limit).value = .ok checked) (hnew : table.byName? checked.name = none) :
    Represents (table.insert heap checked).heap (table.insert heap checked).table (accepted ++ [definition]) where
  size := by
    rw [ClassTable.size, OrderedMap.size, entries_insert hnew, List.length_append, List.length_append]
    exact congrArg (· + 1) h.size
  entry i key c hentry := by
    rw [entries_insert hnew] at hentry
    rcases getElem?_concat_cases hentry with hold | ⟨hlast, hpair⟩
    · obtain ⟨hkey, old, hdefinition, hrealizes⟩ := h.entry i key c hold
      refine ⟨hkey, old, ?_, hrealizes.mono (heap.grows_link _ _)⟩
      rw [List.getElem?_append_left (List.getElem?_eq_some_iff.mp hdefinition).1, hdefinition]
    · have hi : i = accepted.length := hlast.trans h.size
      obtain ⟨rfl, rfl⟩ := Prod.mk.inj hpair
      refine ⟨rfl, definition, ?_, hi ▸ h.realizes_newest hchecked⟩
      rw [hi, List.getElem?_concat_length]
  vector v id := by
    have hinsert : (table.insert heap checked).table.idOfVector[v]? =
        if (table.insert heap checked).newest.vector == v then some ⟨table.size⟩ else table.idOfVector[v]? :=
      Std.HashMap.getElem?_insert
    rw [hinsert]
    simp only [byId?_insert hnew]
    by_cases hid : id.index = table.size
    · have hnone : table.byId? id = none := by
        rw [byId?, OrderedMap.getAt?, List.getElem?_eq_none (Nat.le_of_eq hid.symm), Option.map_none]
      simp only [hid, if_true]
      by_cases hv : (table.insert heap checked).newest.vector = v
      · simp [hv, ← hid]
      · simp [hv, h.vector, hnone]
    · simp only [hid, if_false]
      by_cases hv : (table.insert heap checked).newest.vector = v
      · have hne : ¬∃ c, table.byId? id = some c ∧ c.vector = v := by
          rintro ⟨c, hc, hvector⟩
          exact h.vector_ne_newest hc (hvector.trans hv.symm)
        have hother : (⟨table.size⟩ : ClassId) ≠ id := fun heq => hid (congrArg ClassId.index heq).symm
        simp [hv, hne, hother]
      · simp [hv, h.vector]

end Insert

end ClassTable

end ObjectModel
