import ObjectModel.Proofs.Class.Interfaces
import ObjectModel.Proofs.Session.Loads

/-!
# Metadata stays intact

Whatever was loaded, by whom and under which configuration: in every session of a run each class has intact metadata, so
native code may walk its interface list to the end. A name that is empty or not text leads nowhere.
-/

namespace ObjectModel.Session

/-- Every class of every table has intact metadata, and no name that is empty or not text is that of a class or of an
interface. -/
structure Sound (s : Session) : Prop where
  intact : ∀ table ∈ s.tables, ∀ c ∈ table.classes, c.Intact s.heap
  noClass : ∀ table ∈ s.tables, ∀ name : CString, name.bytes = [] ∨ ¬Utf8.WellFormed name.bytes →
    table.byName? name = none
  noInterface : ∀ table ∈ s.tables, ∀ c ∈ table.classes, ∀ name : CString,
    name.bytes = [] ∨ ¬Utf8.WellFormed name.bytes → c.implements s.heap name = false

variable {s : Session} {number : Nat} {log : List (ClassDefinition × Nat)} {table : ClassTable} {c : LoadedClass}

/-- Every class of a table that was loaded into is intact. -/
theorem Records.intact (h : s.Records number log) (htable : s.tables[number]? = some table) (hc : c ∈ table.classes) :
    c.Intact s.heap := by
  obtain ⟨definition, bound, -, hrealizes, checked, hchecked⟩ := h.of_mem htable hc
  exact hrealizes.intact hchecked

/-- Metadata is intact in every session of a run. -/
theorem sound_run (requests : List Request) : (start.run requests).1.Sound := by
  have hrecords := records_run requests
  have hnever : ∀ {name : CString}, name.IsText → ¬(name.bytes = [] ∨ ¬Utf8.WellFormed name.bytes) :=
    fun htext hbad => hbad.elim htext.nonempty fun hill => hill htext.wellFormed
  refine ⟨fun table htable c hc => ?_, fun table htable name hname => ?_, fun table htable c hc name hname => ?_⟩
  · obtain ⟨number, hnumber⟩ := List.mem_iff_getElem?.mp htable
    exact (hrecords number).intact hnumber hc
  · obtain ⟨number, hnumber⟩ := List.mem_iff_getElem?.mp htable
    apply Option.eq_none_iff_forall_ne_some.mpr
    intro c hc
    have hintact := (hrecords number).intact hnumber (ClassTable.mem_classes_of_byName? hc)
    exact hnever ((((hrecords number).represents table hnumber).of_byName? hc).1 ▸ hintact.name) hname
  · obtain ⟨number, hnumber⟩ := List.mem_iff_getElem?.mp htable
    obtain ⟨definition, bound, -, hrealizes, checked, hchecked⟩ := (hrecords number).of_mem hnumber hc
    apply Bool.eq_false_iff.mpr
    intro himplements
    exact hnever ((hrealizes.intact hchecked).interfaces name (hrealizes.implements_iff.mp himplements)) hname

end ObjectModel.Session
