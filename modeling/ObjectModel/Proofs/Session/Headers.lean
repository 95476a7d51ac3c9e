import ObjectModel.Native
import ObjectModel.Proofs.Class.Interfaces
import ObjectModel.Proofs.Session.Creations
import ObjectModel.Proofs.Session.Vectors

/-!
# Headers lead back to classes

The header of an instance, and that of the characters of a string, leads to the dispatch vector of the class that it was
created for. No two classes share a dispatch vector, not even in different tables, so the address tells the table and
the class.
-/

namespace ObjectModel.Session

/-- The headers of the instances, each with the class that it was created for: its own of each instance, and that of the
character array of each string. -/
inductive Bears (s : Session) (created : List Creation) : ObjectHeader → TableClass → Prop
  | own {i : Nat} {value : Instance} {creation : Creation} (hlive : s.instance? i = some value)
      (hcreation : created[i]? = some creation) : Bears s created (value.header s.heap) creation.ofClass
  | characters {i : Nat} {value : Instance} {creation : Creation} {characters : TableClass} {id : ArrayId}
      (hlive : s.instance? i = some value) (hcreation : created[i]? = some creation)
      (hcharacters : creation.characters = some characters) (hid : value.array? = some id) :
      Bears s created (s.heap.array id).object characters

/-- A header leads to a class: both reads of the header give its dispatch vector, which only its own table knows, as
that of the class, and through which the same names are found as through the class. -/
structure LeadsTo (s : Session) (header : ObjectHeader) (origin : TableClass) : Prop where
  read : Access.dispatchVector (some header) = .ok origin.loaded.vector
  native : Native.dispatchVector (some header) = ⟨some origin.loaded.vector, []⟩
  table : ∃ table, s.tables[origin.table]? = some table ∧ table.byVector? origin.loaded.vector = some origin.loaded
  others : ∀ (number : Nat) table, number ≠ origin.table → s.tables[number]? = some table →
    table.byVector? origin.loaded.vector = none
  lookups : ∀ name, s.heap.find name (s.heap.vector origin.loaded.vector).head =
    some (origin.loaded.implements s.heap name)

/-- The kind of class that the characters of a string are created for. -/
def charactersKind : Encoding → TypeKind
  | .utf16 => .array .char
  | .latin1 => .array .byte
  | .utf8 => .array .byte

/-- The classes that an instance was created for are of the kinds that its shape needs. -/
def Fits (heap : Heap) (creation : Creation) : Instance → Prop
  | .object .. => creation.ofClass.loaded.info.kind = .object ∧ creation.characters = none
  | .array _ id => creation.ofClass.loaded.info.kind = .array (heap.array id).element ∧ creation.characters = none
  | .string _ e _ id => creation.ofClass.loaded.info.kind = .string ∧ ∃ characters,
      creation.characters = some characters ∧ characters.loaded.info.kind = charactersKind e ∧
        charactersKind e = .array (heap.array id).element

/-- Every instance has the class that it was created for and answers for it, every header leads to the class that it was
created for, and headers lead to one dispatch vector only when they were created for one class of one table. -/
structure HeadersLeadBack (s : Session) (created : List Creation) : Prop where
  instances : ∀ i value, s.instance? i = some value → ∃ creation, created[i]? = some creation ∧
    value.ofClass = creation.ofClass.loaded ∧ Fits s.heap creation value ∧
    ∀ name, (s.ask (.instanceImplements i name)).result =
      .ok (.flag (creation.ofClass.loaded.implements s.heap name))
  headers : ∀ header origin, s.Bears created header origin → s.LeadsTo header origin
  apart : ∀ header other origin otherOrigin, s.Bears created header origin → s.Bears created other otherOrigin →
    (Access.dispatchVector (some header) = Access.dispatchVector (some other) ↔ origin = otherOrigin)

variable {s : Session} {created : List Creation} {header : ObjectHeader} {origin : TableClass} {requests : List Request}

/-- The characters of a string are created for an array class of the element type of the encoding. -/
theorem charactersKind_eq (e : Encoding) : charactersKind e = .array e.elementType := by
  cases e <;> rfl

/-- The classes that an instance is made for are of the kinds that its shape needs. -/
theorem fits_of_madeFor {heap : Heap} {creation : Creation} {value : Instance}
    (h : value.MadeFor heap creation.ofClass.loaded creation.charactersClass) :
    Fits heap creation value := by
  obtain ⟨ofClass, characters⟩ := creation
  cases characters with
  | none =>
    cases h with
    | object hkind => exact ⟨hkind, rfl⟩
    | array hkind hstored =>
      refine ⟨?_, rfl⟩
      rw [Heap.array, hstored, Option.getD_some]
      exact hkind
  | some characters =>
    cases h with
    | @string _ e _ _ hkind hchars hstored =>
      refine ⟨hkind, characters, rfl, hchars.trans (charactersKind_eq e).symm, ?_⟩
      rw [Heap.array, hstored, Option.getD_some]
      exact charactersKind_eq e

/-- A header that something was created with has the dispatch vector of a class that is in its table. -/
theorem Bears.of_tracks (h : s.Bears created header origin) (htracks : s.Tracks created) :
    header = ⟨some origin.loaded.vector⟩ ∧ s.Has origin := by
  cases h with
  | @own i value creation hlive hcreation =>
    obtain ⟨other, hother, hknows, hmade⟩ := htracks.live i value hlive
    cases hcreation.symm.trans hother
    exact ⟨hmade.header_eq, hknows.1⟩
  | @characters i value creation characters id hlive hcreation hcharacters hid =>
    obtain ⟨other, hother, hknows, hmade⟩ := htracks.live i value hlive
    cases hcreation.symm.trans hother
    rw [Creation.charactersClass, hcharacters] at hmade
    exact ⟨hmade.characters_eq hid, hknows.2 _ hcharacters⟩

/-- A header with the dispatch vector of a class leads to that class. -/
theorem leadsTo_of_has (h : (start.run requests).1.Has origin) :
    (start.run requests).1.LeadsTo ⟨some origin.loaded.vector⟩ origin where
  read := rfl
  native := rfl
  table := by
    obtain ⟨table, htable, hmem⟩ := h
    exact ⟨table, htable, (represented_run requests).byVector? htable hmem⟩
  others number table hne htable := by
    apply Option.eq_none_iff_forall_ne_some.mpr
    intro c hc
    obtain ⟨accepted, hrepresents⟩ := represented_run requests number table htable
    obtain ⟨hvector, id, hid⟩ := hrepresents.of_byVector? hc
    have hhas : (start.run requests).1.Has ⟨number, c⟩ := ⟨table, htable, ClassTable.mem_classes_iff.mpr ⟨id, hid⟩⟩
    exact hne (table_eq_of_vector_eq hhas h hvector)
  lookups name := by
    obtain ⟨definition, hrealizes⟩ := (represented_run requests).realizes h
    exact hrealizes.find_eq name

/-- In every session of a run the headers lead back to what the history says they were created for. -/
theorem headersLeadBack_run (requests : List Request) :
    (start.run requests).1.HeadersLeadBack (creations (start.history requests)) := by
  have htracks := tracks_run requests
  refine ⟨fun i value hlive => ?_, fun header origin hbears => ?_, fun header other origin otherOrigin hbears hother => ?_⟩
  · obtain ⟨creation, hcreation, -, hmade⟩ := htracks.live i value hlive
    refine ⟨creation, hcreation, hmade.ofClass_eq, fits_of_madeFor hmade, fun name => ?_⟩
    have hoperand : (start.run requests).1.liveInstance i = .ok value := orRefuse_eq_ok_iff.mpr hlive
    rw [ask, hoperand, ← hmade.ofClass_eq]
    rfl
  · obtain ⟨rfl, hhas⟩ := hbears.of_tracks htracks
    exact leadsTo_of_has hhas
  · obtain ⟨rfl, hhas⟩ := hbears.of_tracks htracks
    obtain ⟨rfl, hotherHas⟩ := hother.of_tracks htracks
    constructor
    · intro hsame
      have hvector : origin.loaded.vector = otherOrigin.loaded.vector := by
        injection hsame with hvalue
        injection hvalue
      exact eq_of_vector_eq hhas hotherHas hvector
    · rintro rfl
      rfl

end ObjectModel.Session
