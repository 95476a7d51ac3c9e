import ObjectModel.Proofs.Class.Decision
import ObjectModel.Proofs.Class.LoadAll
import ObjectModel.Proofs.Class.Verdict

/-!
# Builtin classes can be loaded

Definitions that pass their checks and have names of their own are all loaded. The builtin ones do when three interfaces
are allowed; otherwise the string class has too many. A table that holds them finds each by its name, whatever else was
loaded behind them.
-/

namespace ObjectModel

/-- The builtin definitions differ in their names, and each of them passes every check of a definition but that of the
number of interfaces, of which it has no more than three. -/
theorem builtinDefinitions_proper : (builtinDefinitions.map ClassDefinition.name).Nodup ∧
    ∀ definition ∈ builtinDefinitions, IsName definition.name ∧ definition.interfaces.length ≤ 3 ∧
      definition.interfaces.Nodup ∧ ∀ name ∈ definition.interfaces, IsName name := by
  simp only [IsName]
  decide +kernel

/-- When three interfaces are allowed the builtin definitions pass their checks. -/
theorem exists_check_of_builtin {limit : Nat} (h : 3 ≤ limit) :
    ∀ definition ∈ builtinDefinitions, ∃ checked, (definition.check limit).value = .ok checked := by
  intro definition hmem
  obtain ⟨hname, hfew, hrest⟩ := builtinDefinitions_proper.2 definition hmem
  exact ClassDefinition.exists_check_iff.mpr ⟨hname, hfew.trans h, hrest⟩

namespace ClassTable

variable {limit : Nat} {heap : Heap} {table : ClassTable} {accepted definitions others : List ClassDefinition}

/-- Definitions that pass their checks are all loaded when neither they nor those that a table holds share a name. -/
theorem Represents.exists_loadAll (h : Represents heap table accepted)
    (hnames : ((accepted ++ definitions).map ClassDefinition.name).Nodup)
    (hchecks : ∀ definition ∈ definitions, ∃ checked, (definition.check limit).value = .ok checked) :
    ∃ result, (table.loadAll limit heap definitions).value = .ok result := by
  induction definitions generalizing heap table accepted with
  | nil => exact ⟨_, rfl⟩
  | cons definition rest ih =>
    obtain ⟨hfirst, hrest⟩ := List.forall_mem_cons.mp hchecks
    have hfresh : definition.name ∉ accepted.map ClassDefinition.name := by
      rw [List.map_append, List.map_cons] at hnames
      exact fun hmem => List.disjoint_of_nodup_append hnames hmem List.mem_cons_self
    obtain ⟨loaded, hload⟩ := h.exists_load_iff.mpr ⟨hfirst, hfresh⟩
    obtain ⟨checked, hchecked, hnew, rfl⟩ := load_eq_ok_iff.mp hload
    rw [List.append_cons] at hnames
    obtain ⟨result, hresult⟩ := ih (h.insert hchecked hnew) hnames hrest
    exact ⟨result, Outcome.value_andThen_eq_ok_iff.mpr ⟨_, hload, hresult⟩⟩

/-- A table of the builtin classes holds their definitions. -/
theorem represents_withBuiltins {result : Heap × ClassTable} (h : (withBuiltins limit heap).value = .ok result) :
    Represents result.1 result.2 builtinDefinitions :=
  ((Represents.empty heap).loadAll h).1

/-- A table of the builtin classes is made when three interfaces are allowed. -/
theorem exists_withBuiltins (heap : Heap) (h : 3 ≤ limit) : ∃ result, (withBuiltins limit heap).value = .ok result :=
  (Represents.empty heap).exists_loadAll builtinDefinitions_proper.1 (exists_check_of_builtin h)

/-- When fewer interfaces are allowed the string class has too many. -/
theorem withBuiltins_of_lt (heap : Heap) (h : limit < 3) :
    ∃ name, (withBuiltins limit heap).value = .error (.tooManyInterfaces name 3 limit) := by
  obtain ⟨object, string, rest, hdefinitions, hobject, hstring, hmany⟩ : ∃ object string rest,
      builtinDefinitions = object :: string :: rest ∧ object.interfaces = [] ∧ IsName string.name ∧
        string.interfaces.length = 3 :=
    ⟨_, _, _, rfl, rfl, (builtinDefinitions_proper.2 _ (.tail _ (.head _))).1, rfl⟩
  have hchecked : ∃ checked, (object.check limit).value = .ok checked := by
    obtain ⟨hname, -⟩ := builtinDefinitions_proper.2 object (hdefinitions ▸ .head _)
    exact ClassDefinition.exists_check_iff.mpr ⟨hname, by simp [hobject]⟩
  obtain ⟨loaded, hload⟩ := (Represents.empty heap).exists_load_iff.mpr ⟨hchecked, List.not_mem_nil⟩
  obtain ⟨name, hname⟩ := (exists_checkedName_iff .ofClass).mpr hstring
  have hrefused := ClassDefinition.check_of_lt hname (hmany.symm ▸ h)
  refine ⟨name, ?_⟩
  rw [withBuiltins, hdefinitions, loadAll, Outcome.value_andThen_eq_error_iff]
  refine .inr ⟨loaded, hload, ?_⟩
  rw [loadAll, Outcome.value_andThen_eq_error_iff, load, Outcome.value_andThen_eq_error_iff, hrefused, hmany]
  exact .inl (.inl rfl)

/-- A table finds each definition that it holds by its name, and the class that it finds by its dispatch vector. -/
theorem Represents.exists_byString? (h : Represents heap table accepted) {definition : ClassDefinition}
    (hmem : definition ∈ accepted) : ∃ c, table.byString? definition.name = some c ∧
      c.info.kind = definition.kind ∧ table.byVector? c.vector = some c := by
  obtain ⟨i, hi⟩ := List.mem_iff_getElem?.mp hmem
  obtain ⟨c, -, hname, -, hvector, -, -, -, hkind, -⟩ := h.refines.found i definition hi
  exact ⟨c, hname, hkind, hvector⟩

/-- A table that holds the builtin definitions has the string class. -/
theorem Represents.exists_stringClass (h : Represents heap table (builtinDefinitions ++ others)) :
    ∃ c, table.byString? stringClassName = some c ∧ c.info.kind = .string ∧ table.byVector? c.vector = some c := by
  have hmem : (ClassDefinition.string stringClassName).implementsAll
      ["java.lang.CharSequence", "java.lang.Comparable", "java.io.Serializable"] ∈ builtinDefinitions ++ others :=
    List.mem_append_left _ (.tail _ (.head _))
  obtain ⟨c, hname, hkind, hvector⟩ := h.exists_byString? hmem
  exact ⟨c, hname, hkind, hvector⟩

/-- A table that holds the builtin definitions has the array class of each element type. -/
theorem Represents.exists_arrayClass (h : Represents heap table (builtinDefinitions ++ others)) (t : ElementType) :
    ∃ c, table.byString? t.arrayDescriptor = some c ∧ c.info.kind = .array t ∧ table.byVector? c.vector = some c := by
  have hmem : (ClassDefinition.primitiveArray t).implementsAll ["java.lang.Cloneable", "java.io.Serializable"] ∈
      builtinDefinitions ++ others := List.mem_append_left _ (List.mem_append_right _ (List.mem_map_of_mem t.mem_all))
  obtain ⟨c, hname, hkind, hvector⟩ := h.exists_byString? hmem
  exact ⟨c, hname, hkind, hvector⟩

end ClassTable

end ObjectModel
