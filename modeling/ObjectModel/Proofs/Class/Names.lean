import ObjectModel.Proofs.Class.Decision
import ObjectModel.Proofs.Class.Table

/-!
# Names are kept whole

A name is converted to the C string with exactly its bytes, so names differ exactly when their C strings do, and a class
keeps the names that its definition gave. A name with a NUL is not converted. It is told as it was given, though it is
read from the bytes that were refused, together with the position of its first NUL.
-/

namespace ObjectModel

/-- A C string has exactly the bytes of a name. -/
def CString.IsOf (stored : CString) (name : String) : Prop :=
  stored.bytes.toByteArray = name.toUTF8

/-- The names that a definition gives: that of the class, and those of its interfaces in order. -/
def ClassDefinition.names (definition : ClassDefinition) : List String :=
  definition.name :: definition.interfaces

/-- The names that a class has: its own, and those that its interface list yields. -/
def LoadedClass.names (heap : Heap) (c : LoadedClass) : List CString :=
  c.info.name :: c.interfaces heap

/-- A class has the names that a definition gives, each in its place and with its bytes. -/
def LoadedClass.KeepsNames (heap : Heap) (c : LoadedClass) (definition : ClassDefinition) : Prop :=
  List.Forall₂ CString.IsOf (c.names heap) definition.names

namespace CString

variable {stored other : CString} {name text : String} {refused : RefusedBytes}

/-- A C string has the bytes of a name exactly when the name is written as them. -/
theorem isOf_iff : stored.IsOf name ↔ stored.bytes = Utf8.bytesOf name := by
  rw [IsOf, String.toUTF8, ← Utf8.toByteArray_bytesOf]
  constructor
  · intro h
    rw [← List.toList_data_toByteArray (l := stored.bytes), h, List.toList_data_toByteArray]
  · intro h
    rw [h]

/-- Names are the same exactly when the C strings with their bytes are. -/
theorem IsOf.eq_iff (h : stored.IsOf name) (hother : other.IsOf text) : name = text ↔ stored = other := by
  constructor
  · rintro rfl
    exact CString.ext ((isOf_iff.mp h).trans (isOf_iff.mp hother).symm)
  · rintro rfl
    exact Utf8.bytesOf_injective ((isOf_iff.mp h).symm.trans (isOf_iff.mp hother))

/-- The bytes of a name that are refused are read as that name, and told with the position of its first NUL. -/
theorem reread_of_refused (h : ofBytes (Utf8.bytesOf name) = .error refused) :
    String.ofList (Utf8.decodeLossy refused.bytes) = name ∧ Text.FirstNul name refused.position := by
  obtain ⟨hnul, rfl⟩ := ofBytes_eq_error_iff.mp h
  exact ⟨Utf8.ofList_decodeLossy_bytesOf name, Text.firstNul_iff_idxOf.mpr ⟨Utf8.zero_mem_bytesOf_iff.mp hnul, rfl⟩⟩

end CString

/-- A name that is not empty and has no NUL is converted to the C string with its bytes, in any role. -/
theorem exists_checkedName_isOf (role : NameRole) {name : String} (hne : name ≠ "") (hfree : '\x00' ∉ name.toList) :
    ∃ stored, checkedName role name = .ok stored ∧ stored.IsOf name := by
  have hname : IsName name := ⟨hne, fun hnul => hfree (Utf8.zero_mem_bytesOf_iff.mp hnul)⟩
  obtain ⟨stored, hstored⟩ := (exists_checkedName_iff role).mpr hname
  exact ⟨stored, hstored, CString.isOf_iff.mpr (checkedName_eq_ok_iff.mp hstored).2⟩

/-- A class keeps the names of the definition that it realizes. -/
theorem LoadedClass.Realizes.keepsNames {heap : Heap} {c : LoadedClass} {i : Nat} {definition : ClassDefinition}
    (h : c.Realizes heap i definition) : c.KeepsNames heap definition := by
  refine .cons (CString.isOf_iff.mpr h.name) ?_
  have hbytes : List.Forall₂ (· = ·) ((c.interfaces heap).map CString.bytes)
      (definition.interfaces.map Utf8.bytesOf) := by
    rw [List.forall₂_eq_eq_eq]
    exact h.interfaces
  rw [List.forall₂_map_left_iff, List.forall₂_map_right_iff] at hbytes
  exact hbytes.imp fun _ _ => CString.isOf_iff.mpr

/-- What is wrong with a name is a NUL in it exactly when it has one, and the first one is told. -/
theorem nameFault_eq_nulInName_iff {role otherRole : NameRole} {name other : String} {position : Nat}
    (h : ¬IsName name) : nameFault role name = .nulInName otherRole other position ↔
      (role = otherRole ∧ name = other) ∧ Text.FirstNul name position := by
  rw [nameFault, Text.firstNul_iff_idxOf, Text.idxOf_bytesOf, ← Utf8.zero_mem_bytesOf_iff]
  split
  · next hempty =>
    subst hempty
    exact iff_of_false (by rintro ⟨⟩) (by rintro ⟨-, hnul, -⟩; cases hnul)
  · next hne =>
    have hnul : 0 ∈ Utf8.bytesOf name := by_contra fun hfree => h ⟨hne, hfree⟩
    rw [Fault.nulInName.injEq, and_iff_right hnul, and_assoc]

section Refusal

variable {limit : Nat} {definition : ClassDefinition} {role : NameRole} {name : String} {position : Nat}

/-- A definition fails its checks for a NUL exactly when it is refused for a name that has one, and the first NUL of this
name is told. -/
theorem ClassDefinition.check_eq_nulInName_iff :
    (definition.check limit).value = .error (.nulInName role name position) ↔
      definition.RefusedFor limit role name ∧ Text.FirstNul name position := by
  rw [check_eq_error_iff]
  constructor
  · generalize hfault : Fault.nulInName role name position = fault
    intro h
    cases h with
    | name first =>
      obtain ⟨⟨rfl, rfl⟩, hnul⟩ := (nameFault_eq_nulInName_iff first.improper).mp hfault.symm
      exact ⟨first, hnul⟩
    | tooMany => cases hfault
    | repeated => cases hfault
  · rintro ⟨first, hnul⟩
    rw [← (nameFault_eq_nulInName_iff first.improper).mpr ⟨⟨rfl, rfl⟩, hnul⟩]
    exact .name first

/-- A table refuses a definition for a NUL exactly when the checks do. -/
theorem ClassTable.load_eq_nulInName_iff {heap : Heap} {table : ClassTable} :
    (table.load limit heap definition).value = .error (.nulInName role name position) ↔
      definition.RefusedFor limit role name ∧ Text.FirstNul name position := by
  rw [load, Outcome.value_andThen_eq_error_iff, ClassDefinition.check_eq_nulInName_iff]
  refine or_iff_left ?_
  rintro ⟨checked, -, hduplicate⟩
  split at hduplicate <;> cases hduplicate

end Refusal

end ObjectModel
