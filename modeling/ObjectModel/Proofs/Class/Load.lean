import ObjectModel.Class.Load
import ObjectModel.Proofs.Heap.Growth
import ObjectModel.Proofs.Result

/-!
# What loading accepts

A definition passes its checks exactly when its names are neither empty nor have a NUL, its interfaces differ and there
are not too many of them. Loading then adds it unless a class of its name is there, and changes nothing on the heap.
-/

namespace ObjectModel

/-- A text is the C string with its bytes, if there is one. -/
theorem CString.ofString?_eq_some_iff {text : String} {name : CString} :
    ofString? text = some name ↔ name.bytes = Utf8.bytesOf text :=
  ofBytes?_eq_some_iff

/-- A name passes its check exactly when it is not empty and a C string has its bytes. -/
theorem checkedName_eq_ok_iff {role : NameRole} {name : String} {checked : CString} :
    checkedName role name = .ok checked ↔ name ≠ "" ∧ checked.bytes = Utf8.bytesOf name := by
  rw [checkedName, ← CString.ofBytes_eq_ok_iff]
  split
  · next hempty => simp [hempty]
  · next hnonempty =>
    cases CString.ofBytes (Utf8.bytesOf name) with
    | error refused => simp
    | ok other => simp [hnonempty]

/-- Names that pass their checks keep their bytes. -/
theorem bytes_of_mapM_checkedName {role : NameRole} {names : List String} {checked : List CString}
    (h : names.mapM (checkedName role) = .ok checked) : checked.map CString.bytes = names.map Utf8.bytesOf := by
  have hall := forall₂_of_mapM_eq_ok h
  clear h
  induction hall with
  | nil => rfl
  | cons hfirst _ ih => rw [List.map_cons, List.map_cons, (checkedName_eq_ok_iff.mp hfirst).2, ih]

/-- Names that pass their checks are not empty. -/
theorem ne_empty_of_mapM_checkedName {role : NameRole} {names : List String} {checked : List CString}
    (h : names.mapM (checkedName role) = .ok checked) : ∀ name ∈ names, name ≠ "" := by
  have hall := forall₂_of_mapM_eq_ok h
  clear h
  induction hall with
  | nil => exact fun _ hmem => nomatch hmem
  | cons hfirst _ ih => exact List.forall_mem_cons.mpr ⟨(checkedName_eq_ok_iff.mp hfirst).1, ih⟩

/-- A definition passes its checks exactly when each of them passes, and it keeps its kind. -/
theorem ClassDefinition.check_eq_ok_iff {limit : Nat} {definition : ClassDefinition} {checked : CheckedDefinition} :
    (definition.check limit).value = .ok checked ↔
      checkedName .ofClass definition.name = .ok checked.name ∧ definition.interfaces.length ≤ limit ∧
        definition.interfaces.Nodup ∧
        definition.interfaces.mapM (checkedName .ofInterface) = .ok checked.interfaces ∧
        checked.kind = definition.kind := by
  obtain ⟨name, kind, interfaces⟩ := checked
  rw [check, ← firstRepeat?_eq_none_iff]
  cases checkedName .ofClass definition.name with
  | error fault => simp [Outcome.fail]
  | ok first =>
    dsimp only
    split
    · next hmany => simp [Outcome.failWith, Nat.not_le.mpr hmany]
    · next hfew =>
      cases firstRepeat? definition.interfaces with
      | some repeated => simp [Outcome.failWith]
      | none =>
        cases definition.interfaces.mapM (checkedName .ofInterface) with
        | error fault => simp [Outcome.fail]
        | ok others => simp [Outcome.ok, Nat.not_lt.mp hfew, eq_comm, and_comm]

/-- A name that a class or an interface can have: it is not empty and has no NUL. -/
def IsName (name : String) : Prop :=
  name ≠ "" ∧ 0 ∉ Utf8.bytesOf name

/-- A name passes its check exactly when a class or an interface can have it. -/
theorem exists_checkedName_iff (role : NameRole) {name : String} :
    (∃ checked, checkedName role name = .ok checked) ↔ IsName name := by
  simp only [checkedName_eq_ok_iff, IsName]
  constructor
  · rintro ⟨checked, hne, hbytes⟩
    exact ⟨hne, hbytes ▸ checked.nulFree⟩
  · rintro ⟨hne, hnul⟩
    exact ⟨⟨_, hnul⟩, hne, rfl⟩

/-- A definition passes its checks exactly when its names are names and its interfaces differ and are not too many. -/
theorem ClassDefinition.exists_check_iff {limit : Nat} {definition : ClassDefinition} :
    (∃ checked, (definition.check limit).value = .ok checked) ↔
      IsName definition.name ∧ definition.interfaces.length ≤ limit ∧ definition.interfaces.Nodup ∧
        ∀ name ∈ definition.interfaces, IsName name := by
  simp only [check_eq_ok_iff]
  constructor
  · rintro ⟨checked, hname, hfew, hnodup, hinterfaces, -⟩
    refine ⟨(exists_checkedName_iff _).mp ⟨_, hname⟩, hfew, hnodup, fun name hmem => ?_⟩
    exact (exists_checkedName_iff _).mp (exists_of_mapM_eq_ok hinterfaces hmem)
  · rintro ⟨hname, hfew, hnodup, hinterfaces⟩
    obtain ⟨name, hname⟩ := (exists_checkedName_iff .ofClass).mpr hname
    obtain ⟨interfaces, hinterfaces⟩ := exists_mapM_eq_ok fun name hmem =>
      (exists_checkedName_iff .ofInterface).mpr (hinterfaces name hmem)
    exact ⟨⟨name, definition.kind, interfaces⟩, hname, hfew, hnodup, hinterfaces, rfl⟩

namespace ClassTable

variable {limit : Nat} {heap : Heap} {table : ClassTable} {definition : ClassDefinition} {loaded : Loaded}
  {definitions : List ClassDefinition} {result : Heap × ClassTable}

/-- Loading succeeds exactly when the definition passes its checks and no class has its name, and then inserts it. -/
theorem load_eq_ok_iff : (table.load limit heap definition).value = .ok loaded ↔
    ∃ checked, (definition.check limit).value = .ok checked ∧ table.byName? checked.name = none ∧
      loaded = table.insert heap checked := by
  rw [load, Outcome.value_andThen_eq_ok_iff]
  apply exists_congr
  intro checked
  apply and_congr_right
  intro _
  cases table.byName? checked.name with
  | some c => simp [Outcome.fail]
  | none => simp [Outcome.okWith, eq_comm]

/-- Loading changes nothing that is on the heap. -/
theorem grows_load (h : (table.load limit heap definition).value = .ok loaded) : heap.Grows loaded.heap := by
  obtain ⟨checked, -, -, rfl⟩ := load_eq_ok_iff.mp h
  exact heap.grows_link _ _

/-- What every insertion of a new class keeps holds after loading a list of definitions. -/
theorem loadAll_induction {P : Heap → ClassTable → Prop}
    (hinsert : ∀ heap table checked, P heap table → table.byName? checked.name = none →
      P (table.insert heap checked).heap (table.insert heap checked).table)
    (h : P heap table) (hload : (table.loadAll limit heap definitions).value = .ok result) : P result.1 result.2 := by
  induction definitions generalizing heap table with
  | nil =>
    cases hload
    exact h
  | cons definition rest ih =>
    obtain ⟨loaded, hfirst, hrest⟩ := Outcome.value_andThen_eq_ok_iff.mp hload
    obtain ⟨checked, -, hnew, rfl⟩ := load_eq_ok_iff.mp hfirst
    exact ih (hinsert heap table checked h hnew) hrest

/-- Loading a list of definitions changes nothing that is on the heap. -/
theorem grows_loadAll (h : (table.loadAll limit heap definitions).value = .ok result) : heap.Grows result.1 := by
  apply loadAll_induction (P := fun later _ => heap.Grows later) _ (.refl heap) h
  exact fun later table checked hgrows _ => hgrows.trans (later.grows_link _ _)

end ClassTable

end ObjectModel
