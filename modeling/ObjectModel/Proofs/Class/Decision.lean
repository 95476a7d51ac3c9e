import ObjectModel.Proofs.Class.Load
import ObjectModel.Proofs.Text.FirstNul

/-!
# What loading refuses

The checks of a definition are made one after the other, so the first that fails decides, and within a list of interfaces
the first offender does. Each rule here has the rules ahead of it for hypotheses, and says the fault that it gives.
-/

namespace ObjectModel

/-- What is wrong with a name that neither a class nor an interface can have. -/
def nameFault (role : NameRole) (name : String) : Fault :=
  if name = "" then .emptyName role else .nulInName role name (nulPosition name)

/-- A name that neither a class nor an interface can have is an invalid argument. -/
theorem kind_nameFault (role : NameRole) (name : String) : (nameFault role name).kind = .invalidArgument := by
  rw [nameFault]
  split <;> rfl

/-- A name fails its check exactly when neither a class nor an interface can have it. -/
theorem checkedName_eq_error_iff {role : NameRole} {name : String} {fault : Fault} :
    checkedName role name = .error fault ↔ ¬IsName name ∧ fault = nameFault role name := by
  rw [← exists_checkedName_iff role, checkedName, nameFault]
  by_cases hempty : name = ""
  · simp [hempty, eq_comm]
  · rw [if_neg hempty, if_neg hempty]
    cases hbytes : CString.ofBytes (Utf8.bytesOf name) with
    | error refused =>
      obtain ⟨-, rfl⟩ := CString.ofBytes_eq_error_iff.mp hbytes
      dsimp only
      rw [Utf8.ofList_decodeLossy_bytesOf, Text.idxOf_bytesOf]
      simp [eq_comm]
    | ok checked => simp

/-- The first repeated entry is one behind entries that differ, and equals one of them or one already seen. -/
theorem firstRepeatFrom_eq_some_iff {seen : Std.HashSet String} {names : List String} {name : String} :
    firstRepeatFrom seen names = some name ↔ ∃ ahead behind, names = ahead ++ name :: behind ∧ ahead.Nodup ∧
      (∀ other ∈ ahead, other ∉ seen) ∧ (name ∈ ahead ∨ name ∈ seen) := by
  induction names generalizing seen with
  | nil => simp [firstRepeatFrom]
  | cons first rest ih =>
    rw [firstRepeatFrom]
    by_cases hseen : first ∈ seen
    · rw [if_pos (Std.HashSet.contains_iff_mem.mpr hseen)]
      constructor
      · intro heq
        cases heq
        exact ⟨[], rest, rfl, .nil, List.forall_mem_nil _, .inr hseen⟩
      · rintro ⟨ahead, behind, heq, -, hnew, -⟩
        cases ahead with
        | nil =>
          cases heq
          rfl
        | cons other ahead =>
          cases heq
          exact absurd hseen (hnew first List.mem_cons_self)
    · rw [if_neg fun hcontains => hseen (Std.HashSet.contains_iff_mem.mp hcontains), ih]
      have hinsert : ∀ {other : String}, other ∈ seen.insert first ↔ other = first ∨ other ∈ seen := by
        intro other
        rw [Std.HashSet.mem_insert, beq_iff_eq, eq_comm]
      simp only [hinsert, not_or]
      constructor
      · rintro ⟨ahead, behind, rfl, hnodup, hnew, hname⟩
        refine ⟨first :: ahead, behind, rfl, List.nodup_cons.mpr ⟨fun hmem => (hnew first hmem).1 rfl, hnodup⟩, ?_, ?_⟩
        · exact List.forall_mem_cons.mpr ⟨hseen, fun other hmem => (hnew other hmem).2⟩
        · rw [List.mem_cons]
          tauto
      · rintro ⟨ahead, behind, heq, hnodup, hnew, hname⟩
        cases ahead with
        | nil =>
          cases heq
          exact absurd (hname.resolve_left List.not_mem_nil) hseen
        | cons other ahead =>
          cases heq
          obtain ⟨hfirst, hnodup⟩ := List.nodup_cons.mp hnodup
          refine ⟨ahead, behind, rfl, hnodup, fun other hmem => ⟨?_, hnew other (List.mem_cons_of_mem _ hmem)⟩, ?_⟩
          · rintro rfl
            exact hfirst hmem
          · rw [List.mem_cons] at hname
            tauto

/-- The entry that is found is the first that equals one ahead of it. -/
theorem firstRepeat?_eq_some_iff {names : List String} {name : String} : firstRepeat? names = some name ↔
    ∃ ahead behind, names = ahead ++ name :: behind ∧ ahead.Nodup ∧ name ∈ ahead := by
  rw [firstRepeat?, firstRepeatFrom_eq_some_iff]
  simp only [Std.HashSet.not_mem_empty, not_false_eq_true, implies_true, true_and, or_false]

/-- A list in which not all entries differ has a first entry that equals one ahead of it. -/
theorem exists_firstRepeat {names : List String} (h : ¬names.Nodup) :
    ∃ ahead name behind, names = ahead ++ name :: behind ∧ ahead.Nodup ∧ name ∈ ahead := by
  rw [← firstRepeat?_eq_none_iff] at h
  obtain ⟨name, hname⟩ := Option.ne_none_iff_exists'.mp h
  obtain ⟨ahead, behind, hsplit⟩ := firstRepeat?_eq_some_iff.mp hname
  exact ⟨ahead, name, behind, hsplit⟩

/-- A list with an entry that no interface can have has a first one. -/
theorem exists_firstImproper {names : List String} (h : ¬∀ name ∈ names, IsName name) :
    ∃ ahead name behind, names = ahead ++ name :: behind ∧ (∀ other ∈ ahead, IsName other) ∧ ¬IsName name := by
  cases hchecked : names.mapM (checkedName .ofInterface) with
  | ok checked =>
    exact absurd (fun name hmem => (exists_checkedName_iff _).mp (exists_of_mapM_eq_ok hchecked hmem)) h
  | error fault =>
    obtain ⟨ahead, name, behind, hsplit, hahead, hname⟩ := mapM_eq_error_iff.mp hchecked
    exact ⟨ahead, name, behind, hsplit, fun other hmem => (exists_checkedName_iff _).mp (hahead other hmem),
      (checkedName_eq_error_iff.mp hname).1⟩

namespace ClassDefinition

/-- A definition is refused for a name: for that of the class, or for the first that no interface can have, once the
checks ahead of that are passed. -/
def RefusedFor (limit : Nat) (definition : ClassDefinition) : NameRole → String → Prop
  | .ofClass, name => name = definition.name ∧ ¬IsName name
  | .ofInterface, name => IsName definition.name ∧ definition.interfaces.length ≤ limit ∧ definition.interfaces.Nodup ∧
      ∃ ahead behind, definition.interfaces = ahead ++ name :: behind ∧ (∀ other ∈ ahead, IsName other) ∧ ¬IsName name

/-- The first check that a definition fails, and the fault that it gives. -/
inductive Refused (limit : Nat) (definition : ClassDefinition) : Fault → Prop where
  | name {role : NameRole} {name : String} (first : definition.RefusedFor limit role name) :
      Refused limit definition (nameFault role name)
  | tooMany {className : CString} (proper : checkedName .ofClass definition.name = .ok className)
      (many : limit < definition.interfaces.length) :
      Refused limit definition (.tooManyInterfaces className definition.interfaces.length limit)
  | repeated {className : CString} {ahead behind : List String} {name : String}
      (proper : checkedName .ofClass definition.name = .ok className) (few : definition.interfaces.length ≤ limit)
      (interfaces : definition.interfaces = ahead ++ name :: behind) (distinct : ahead.Nodup) (again : name ∈ ahead) :
      Refused limit definition (.repeatedInterface className name)

variable {limit : Nat} {definition : ClassDefinition} {className : CString} {fault : Fault}

/-- A definition is refused for its name if no class can have it. -/
theorem check_of_not_isName (hname : ¬IsName definition.name) :
    (definition.check limit).value = .error (nameFault .ofClass definition.name) := by
  rw [check, checkedName_eq_error_iff.mpr ⟨hname, rfl⟩]
  rfl

/-- Then it is refused for having too many interfaces. -/
theorem check_of_lt (hname : checkedName .ofClass definition.name = .ok className)
    (hmany : limit < definition.interfaces.length) :
    (definition.check limit).value = .error (.tooManyInterfaces className definition.interfaces.length limit) := by
  rw [check, hname]
  dsimp only
  rw [if_pos hmany]
  rfl

/-- Then it is refused for the first interface that equals one ahead of it. -/
theorem check_of_firstRepeat (hname : checkedName .ofClass definition.name = .ok className)
    (hfew : definition.interfaces.length ≤ limit) {ahead behind : List String} {name : String}
    (hinterfaces : definition.interfaces = ahead ++ name :: behind) (hnodup : ahead.Nodup) (hmem : name ∈ ahead) :
    (definition.check limit).value = .error (.repeatedInterface className name) := by
  rw [check, hname]
  dsimp only
  rw [if_neg (Nat.not_lt.mpr hfew), firstRepeat?_eq_some_iff.mpr ⟨ahead, behind, hinterfaces, hnodup, hmem⟩]
  rfl

/-- Then it is refused for the first name that no interface can have. -/
theorem check_of_firstImproper (hname : checkedName .ofClass definition.name = .ok className)
    (hfew : definition.interfaces.length ≤ limit) (hnodup : definition.interfaces.Nodup) {ahead behind : List String}
    {name : String} (hinterfaces : definition.interfaces = ahead ++ name :: behind)
    (hahead : ∀ other ∈ ahead, IsName other) (himproper : ¬IsName name) :
    (definition.check limit).value = .error (nameFault .ofInterface name) := by
  have hfirst : definition.interfaces.mapM (checkedName .ofInterface) = .error (nameFault .ofInterface name) :=
    mapM_eq_error_iff.mpr ⟨ahead, name, behind, hinterfaces,
      fun other hmem => (exists_checkedName_iff _).mpr (hahead other hmem),
      checkedName_eq_error_iff.mpr ⟨himproper, rfl⟩⟩
  rw [check, hname]
  dsimp only
  rw [if_neg (Nat.not_lt.mpr hfew), firstRepeat?_eq_none_iff.mpr hnodup, hfirst]
  rfl

/-- Neither a class nor an interface can have a name that a definition is refused for. -/
theorem RefusedFor.improper {role : NameRole} {name : String} (h : definition.RefusedFor limit role name) :
    ¬IsName name := by
  cases role with
  | ofClass => exact h.2
  | ofInterface =>
    obtain ⟨-, -, -, ahead, behind, -, -, himproper⟩ := h
    exact himproper

/-- A definition that does not pass its checks fails a first one. -/
theorem exists_refused (h : ¬∃ checked, (definition.check limit).value = .ok checked) :
    ∃ fault, definition.Refused limit fault := by
  rw [exists_check_iff] at h
  by_cases hname : IsName definition.name
  · obtain ⟨className, hchecked⟩ := (exists_checkedName_iff .ofClass).mpr hname
    rcases Nat.lt_or_ge limit definition.interfaces.length with hmany | hfew
    · exact ⟨_, .tooMany hchecked hmany⟩
    · by_cases hnodup : definition.interfaces.Nodup
      · have himproper : ¬∀ name ∈ definition.interfaces, IsName name := fun hnames => h ⟨hname, hfew, hnodup, hnames⟩
        obtain ⟨ahead, name, behind, hsplit⟩ := exists_firstImproper himproper
        have hfirst : definition.RefusedFor limit .ofInterface name := ⟨hname, hfew, hnodup, ahead, behind, hsplit⟩
        exact ⟨_, .name hfirst⟩
      · obtain ⟨ahead, name, behind, hsplit, hahead, hmem⟩ := exists_firstRepeat hnodup
        exact ⟨_, .repeated hchecked hfew hsplit hahead hmem⟩
  · have hfirst : definition.RefusedFor limit .ofClass definition.name := ⟨rfl, hname⟩
    exact ⟨_, .name hfirst⟩

/-- The first check that a definition fails gives the fault. -/
theorem check_of_refused (h : definition.Refused limit fault) : (definition.check limit).value = .error fault := by
  cases h with
  | @name role name first =>
    cases role with
    | ofClass =>
      obtain ⟨rfl, hname⟩ := first
      exact check_of_not_isName hname
    | ofInterface =>
      obtain ⟨hname, hfew, hnodup, ahead, behind, hsplit, hahead, himproper⟩ := first
      obtain ⟨className, hchecked⟩ := (exists_checkedName_iff .ofClass).mpr hname
      exact check_of_firstImproper hchecked hfew hnodup hsplit hahead himproper
  | tooMany proper many => exact check_of_lt proper many
  | repeated proper few interfaces distinct again => exact check_of_firstRepeat proper few interfaces distinct again

/-- A definition fails its checks with the fault of the first one that it fails. -/
theorem check_eq_error_iff : (definition.check limit).value = .error fault ↔ definition.Refused limit fault := by
  refine ⟨fun h => ?_, check_of_refused⟩
  have hfails : ¬∃ checked, (definition.check limit).value = .ok checked := by
    rintro ⟨checked, hok⟩
    cases h.symm.trans hok
  obtain ⟨first, hrefused⟩ := exists_refused hfails
  cases h.symm.trans (check_of_refused hrefused)
  exact hrefused

end ClassDefinition

namespace ClassTable

variable {limit : Nat} {heap : Heap} {table : ClassTable} {definition : ClassDefinition} {fault : Fault}

/-- A definition that fails its checks is not loaded. -/
theorem load_of_check_error (h : (definition.check limit).value = .error fault) :
    (table.load limit heap definition).value = .error fault :=
  Outcome.value_andThen_eq_error_iff.mpr (.inl h)

/-- A definition that passes its checks is not loaded when a class of its name is there. -/
theorem load_of_mem {checked : CheckedDefinition} {c : LoadedClass}
    (hchecked : (definition.check limit).value = .ok checked) (hc : table.byName? checked.name = some c) :
    (table.load limit heap definition).value = .error (.duplicateClass checked.name) := by
  refine Outcome.value_andThen_eq_error_iff.mpr (.inr ⟨checked, hchecked, ?_⟩)
  rw [hc]
  rfl

end ClassTable

end ObjectModel
