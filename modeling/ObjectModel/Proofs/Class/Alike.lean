import ObjectModel.Proofs.Class.Interfaces
import ObjectModel.Proofs.Class.LoadAll
import ObjectModel.Proofs.Class.Verdict

/-!
# Tables that hold the same definitions look alike

The same definitions were loaded into two tables, perhaps on different heaps and among other things. Then every lookup
finds classes of which the same can be seen, and loading more comes to the same. Only the addresses may differ.
-/

namespace ObjectModel

/-- What can be seen of a class but its address. -/
structure ClassImage where
  info : TypeInfo
  interfaceCount : Nat
  interfaces : List CString
  isLinked : Bool
  implements : CString → Bool

/-- What can be seen of a class on a heap. -/
def LoadedClass.image (heap : Heap) (c : LoadedClass) : ClassImage where
  info := c.info
  interfaceCount := c.interfaceCount
  interfaces := c.interfaces heap
  isLinked := c.isLinked heap
  implements := c.implements heap

/-- The lookups of two tables find classes of which the same can be seen, or both find nothing. -/
structure ClassTable.LooksLike (heap : Heap) (table : ClassTable) (otherHeap : Heap) (other : ClassTable) : Prop where
  classes : table.classes.map (·.image heap) = other.classes.map (·.image otherHeap)
  byId : ∀ id, (table.byId? id).map (·.image heap) = (other.byId? id).map (·.image otherHeap)
  byName : ∀ name, (table.byName? name).map (·.image heap) = (other.byName? name).map (·.image otherHeap)
  byString : ∀ text, (table.byString? text).map (·.image heap) = (other.byString? text).map (·.image otherHeap)

variable {heap otherHeap : Heap}

/-- What can be seen of a class, had it the given id. -/
def ClassImage.numbered (image : ClassImage) (id : ClassId) : ClassImage :=
  { image with info := { image.info with id } }

/-- Of classes that one definition asks for the same can be seen but the ids. -/
theorem LoadedClass.Realizes.numbered_image_eq {c d : LoadedClass} {i j : Nat} {definition : ClassDefinition}
    (hc : c.Realizes heap i definition) (hd : d.Realizes otherHeap j definition) (id : ClassId) :
    (c.image heap).numbered id = (d.image otherHeap).numbered id := by
  have hname : c.info.name = d.info.name := CString.ext (hc.name.trans hd.name.symm)
  have hinterfaces : c.interfaces heap = d.interfaces otherHeap :=
    List.map_injective_iff.mpr (fun _ _ => CString.ext) (hc.interfaces.trans hd.interfaces.symm)
  have himplements : c.implements heap = d.implements otherHeap := by
    funext name
    rw [Bool.eq_iff_iff, hc.implements_iff, hd.implements_iff, hinterfaces]
  calc
    (c.image heap).numbered id =
        ⟨⟨c.info.name, id, c.info.kind⟩, c.interfaceCount, c.interfaces heap, c.isLinked heap, c.implements heap⟩ := rfl
    _ = ⟨⟨d.info.name, id, d.info.kind⟩, d.interfaceCount, d.interfaces otherHeap, d.isLinked otherHeap,
        d.implements otherHeap⟩ := by
      rw [hname, hc.kind, hd.kind, hc.interfaceCount, hd.interfaceCount, hinterfaces, himplements, hc.isLinked,
        hd.isLinked]
    _ = (d.image otherHeap).numbered id := rfl

/-- Of classes that one definition asks for, at one position, the same can be seen. -/
theorem LoadedClass.Realizes.image_eq {c d : LoadedClass} {i : Nat} {definition : ClassDefinition}
    (hc : c.Realizes heap i definition) (hd : d.Realizes otherHeap i definition) : c.image heap = d.image otherHeap :=
  calc
    c.image heap = (c.image heap).numbered c.info.id := rfl
    _ = (d.image otherHeap).numbered d.info.id := by rw [hc.id, hd.id, hc.numbered_image_eq hd]
    _ = d.image otherHeap := rfl

namespace Outcome

variable {α β γ δ : Type}

/-- Two operations say the same, and either fail with one fault or give values that are related. -/
structure Alike (first : Outcome α) (second : Outcome β) (related : α → β → Prop) : Prop where
  events : first.events = second.events
  values : (∃ fault, first.value = .error fault ∧ second.value = .error fault) ∨
    ∃ a b, first.value = .ok a ∧ second.value = .ok b ∧ related a b

/-- What follows operations that are alike is alike if it is so for all related values. -/
theorem Alike.andThen {related : α → β → Prop} {nextRelated : γ → δ → Prop} {first : Outcome α} {second : Outcome β}
    {next : α → Outcome γ} {otherNext : β → Outcome δ} (h : first.Alike second related)
    (hnext : ∀ a b, related a b → (next a).Alike (otherNext b) nextRelated) :
    (first.andThen next).Alike (second.andThen otherNext) nextRelated := by
  obtain ⟨hevents, ⟨fault, hfirst, hsecond⟩ | ⟨a, b, hfirst, hsecond, hrelated⟩⟩ := h
  · rw [andThen_of_error hfirst, andThen_of_error hsecond]
    exact ⟨hevents, .inl ⟨fault, rfl, rfl⟩⟩
  · obtain ⟨hnextEvents, hvalues⟩ := hnext a b hrelated
    rw [andThen_of_ok hfirst, andThen_of_ok hsecond]
    exact ⟨congrArg₂ _ hevents hnextEvents, hvalues⟩

end Outcome

namespace ClassTable.Represents

variable {table other : ClassTable} {accepted : List ClassDefinition}

/-- The class of a name is that at the first position with a definition of the name. -/
theorem byName?_eq (h : Represents heap table accepted) (name : CString) :
    table.byName? name =
      (accepted.findIdx? fun definition => Utf8.bytesOf definition.name = name.bytes).bind fun i => table.byId? ⟨i⟩ := by
  cases hfound : accepted.findIdx? fun definition => Utf8.bytesOf definition.name = name.bytes with
  | none =>
    refine h.byName?_eq_none fun definition hmem hbytes => ?_
    have hdiffers := List.findIdx?_eq_none_iff.mp hfound definition hmem
    exact absurd hbytes.symm (of_decide_eq_false hdiffers)
  | some i =>
    obtain ⟨hlt, hbytes, -⟩ := List.findIdx?_eq_some_iff_getElem.mp hfound
    obtain ⟨c, hid, -, hname, -⟩ := h.refines.found i _ (List.getElem?_eq_getElem hlt)
    rw [Option.bind_some, hid]
    exact hname name (of_decide_eq_true hbytes).symm

/-- Tables that hold the same definitions look alike. -/
theorem looksLike (h : Represents heap table accepted) (hother : Represents otherHeap other accepted) :
    table.LooksLike heap otherHeap other := by
  have hbyId : ∀ id, (table.byId? id).map (·.image heap) = (other.byId? id).map (·.image otherHeap) := by
    intro id
    cases hdefinition : accepted[id.index]? with
    | none =>
      have hbehind := List.getElem?_eq_none_iff.mp hdefinition
      rw [h.byId?_eq_none hbehind, hother.byId?_eq_none hbehind]
      rfl
    | some definition =>
      obtain ⟨c, hc, hrealizes⟩ := h.exists_byId? hdefinition
      obtain ⟨d, hd, hotherRealizes⟩ := hother.exists_byId? hdefinition
      rw [hc, hd, Option.map_some, Option.map_some, hrealizes.image_eq hotherRealizes]
  have hbyName : ∀ name, (table.byName? name).map (·.image heap) = (other.byName? name).map (·.image otherHeap) := by
    intro name
    rw [h.byName?_eq, hother.byName?_eq, Option.map_bind, Option.map_bind]
    exact congrArg _ (funext fun i => hbyId ⟨i⟩)
  refine ⟨?_, hbyId, hbyName, fun text => ?_⟩
  · apply List.ext_getElem?
    intro i
    rw [List.getElem?_map, List.getElem?_map, getElem?_classes, getElem?_classes, hbyId]
  · rw [byString?, byString?, Option.map_bind, Option.map_bind]
    exact congrArg _ (funext hbyName)

/-- Loading a definition into tables that hold the same ones comes to the same, and leaves them with the same. -/
theorem load_alike (h : Represents heap table accepted) (hother : Represents otherHeap other accepted) (limit : Nat)
    (definition : ClassDefinition) :
    (table.load limit heap definition).Alike (other.load limit otherHeap definition) fun loaded otherLoaded =>
      loaded.newest.info = otherLoaded.newest.info ∧
        Represents loaded.heap loaded.table (accepted ++ [definition]) ∧
        Represents otherLoaded.heap otherLoaded.table (accepted ++ [definition]) where
  events := (h.events_load limit definition).trans (hother.events_load limit definition).symm
  values := by
    rcases h.load_cases limit definition with ⟨fault, hvalue, hload⟩ | ⟨info, loaded, hvalue, hload, hinfo, hloaded⟩
    · rcases hother.load_cases limit definition with ⟨_, hsame, hotherLoad⟩ | ⟨_, _, hsame, -⟩
      · cases hvalue.symm.trans hsame
        exact .inl ⟨fault, hload, hotherLoad⟩
      · cases hvalue.symm.trans hsame
    · rcases hother.load_cases limit definition with
        ⟨_, hsame, -⟩ | ⟨_, otherLoaded, hsame, hotherLoad, hotherInfo, hotherLoaded⟩
      · cases hvalue.symm.trans hsame
      · cases hvalue.symm.trans hsame
        exact .inr ⟨loaded, otherLoaded, hload, hotherLoad, hinfo.trans hotherInfo.symm, hloaded, hotherLoaded⟩

/-- Loading several definitions into tables that hold the same ones comes to the same, and leaves them with the same. -/
theorem loadAll_alike (h : Represents heap table accepted) (hother : Represents otherHeap other accepted) (limit : Nat)
    (definitions : List ClassDefinition) :
    (table.loadAll limit heap definitions).Alike (other.loadAll limit otherHeap definitions) fun built otherBuilt =>
      Represents built.1 built.2 (accepted ++ definitions) ∧
        Represents otherBuilt.1 otherBuilt.2 (accepted ++ definitions) := by
  induction definitions generalizing heap otherHeap table other accepted with
  | nil =>
    rw [List.append_nil]
    exact ⟨rfl, .inr ⟨_, _, rfl, rfl, h, hother⟩⟩
  | cons definition rest ih =>
    rw [ClassTable.loadAll, ClassTable.loadAll, List.append_cons]
    exact (h.load_alike hother limit definition).andThen fun _ _ hnext => ih hnext.2.1 hnext.2.2

end ClassTable.Represents

end ObjectModel
