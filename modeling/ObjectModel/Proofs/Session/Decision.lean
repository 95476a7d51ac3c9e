import ObjectModel.Proofs.Class.Decision
import ObjectModel.Proofs.Response
import ObjectModel.Proofs.Session.Origin
import ObjectModel.Proofs.Session.Perform

/-!
# How a load is decided

Whether a request to load a class is granted is decided by the first rule that applies: the name of the class, the number
of its interfaces, the first repeated interface, the first name that no interface can have, and last a class of the same
name. The walk bound in force at the request limits the number of interfaces. A class that is loaded has the number of
classes before it for an id.
-/

namespace ObjectModel

/-- The response is a failure of the given kind with the given details. -/
def Response.FailsWith {α : Type} (response : Response α) (kind : FaultKind) (details : List String) : Prop :=
  ∃ fault, response.result = .error (.faulted fault) ∧ fault.kind = kind ∧ fault.attachments = details

/-- What is told about a name that neither a class nor an interface can have. -/
def NameRole.complaint (role : NameRole) (name : String) : String :=
  if name = "" then "empty " ++ role.noun ++ " name"
  else role.noun ++ " name " ++ Text.quoted name ++ " contains a NUL byte at " ++ Text.describeNat (nulPosition name)

/-- The name of a class in details, quoted as a C string. -/
def ClassDefinition.quotedName (definition : ClassDefinition) : String :=
  Text.quotedBytes (Utf8.bytesOf definition.name)

namespace Session

/-- A request to load a definition is decided by the first of the rules, in this order, that applies. -/
structure DecidesLoad (s : Session) (handle : Nat) (table : ClassTable) (definition : ClassDefinition) : Prop where
  /-- The name of the class is empty or has a NUL. -/
  className : ¬IsName definition.name →
    (s.perform (.command (.load handle definition))).2.FailsWith .invalidArgument
      [NameRole.ofClass.complaint definition.name]
  /-- There are more interfaces than the bound in force allows. -/
  tooMany : IsName definition.name → s.config.walkBound < definition.interfaces.length →
    (s.perform (.command (.load handle definition))).2.FailsWith .malformedMetadata
      ["class " ++ definition.quotedName ++ " lists " ++ Text.describeNat definition.interfaces.length ++ " interfaces",
        "at most " ++ Text.describeNat s.config.walkBound ++ " are allowed"]
  /-- Not all interfaces differ; the first that equals one ahead of it is told. -/
  repeated : IsName definition.name → definition.interfaces.length ≤ s.config.walkBound → ¬definition.interfaces.Nodup →
    ∃ ahead name behind, definition.interfaces = ahead ++ name :: behind ∧ ahead.Nodup ∧ name ∈ ahead ∧
      (s.perform (.command (.load handle definition))).2.FailsWith .malformedMetadata
        ["class " ++ definition.quotedName ++ " lists " ++ Text.quoted name ++ " twice"]
  /-- The name of an interface is empty or has a NUL; the first such name is told. -/
  interfaceName : IsName definition.name → definition.interfaces.length ≤ s.config.walkBound →
    definition.interfaces.Nodup → (¬∀ name ∈ definition.interfaces, IsName name) →
    ∃ ahead name behind, definition.interfaces = ahead ++ name :: behind ∧ (∀ other ∈ ahead, IsName other) ∧
      ¬IsName name ∧ (s.perform (.command (.load handle definition))).2.FailsWith .invalidArgument
        [NameRole.ofInterface.complaint name]
  /-- A class of the name is loaded. -/
  duplicate : IsName definition.name → definition.interfaces.length ≤ s.config.walkBound →
    definition.interfaces.Nodup → (∀ name ∈ definition.interfaces, IsName name) →
    (table.byString? definition.name).isSome →
    (s.perform (.command (.load handle definition))).2.FailsWith .duplicateClass [definition.quotedName]
  /-- No rule applies. -/
  loaded : IsName definition.name → definition.interfaces.length ≤ s.config.walkBound →
    definition.interfaces.Nodup → (∀ name ∈ definition.interfaces, IsName name) →
    table.byString? definition.name = none →
    (s.perform (.command (.load handle definition))).2.result = .ok (.loaded ⟨table.size⟩)
  loaded_iff : (∃ answer, (s.perform (.command (.load handle definition))).2.result = .ok answer) ↔
    table.byString? definition.name = none ∧ IsName definition.name ∧
      (∀ name ∈ definition.interfaces, IsName name) ∧ definition.interfaces.Nodup ∧
      definition.interfaces.length ≤ s.config.walkBound

variable {s : Session} {handle : Nat} {table : ClassTable} {definition : ClassDefinition}

/-- What is wrong with a name is an invalid argument, and is told as such. -/
theorem nameFault_eq (role : NameRole) (name : String) :
    (nameFault role name).kind = .invalidArgument ∧ (nameFault role name).attachments = [role.complaint name] := by
  rw [nameFault, NameRole.complaint]
  split <;> exact ⟨rfl, rfl⟩

/-- A checked name is quoted as the name of its definition. -/
theorem quoted_of_checkedName {role : NameRole} {name : CString} (h : checkedName role definition.name = .ok name) :
    name.quoted = definition.quotedName :=
  congrArg Text.quotedBytes (checkedName_eq_ok_iff.mp h).2

/-- A class is found by the name of a definition exactly when it is found by the checked name. -/
theorem byString?_of_checkedName {name : CString} (h : checkedName .ofClass definition.name = .ok name) :
    table.byString? definition.name = table.byName? name := by
  rw [ClassTable.byString?, CString.ofString?_eq_some_iff.mpr (checkedName_eq_ok_iff.mp h).2, Option.bind_some]

/-- A request to load a definition that the table refuses fails with the fault of the table. -/
theorem failsWith_of_load {fault : Fault} (htable : s.table handle = .ok table)
    (hload : (table.load s.config.walkBound s.heap definition).value = .error fault) :
    (s.perform (.command (.load handle definition))).2.FailsWith fault.kind fault.attachments := by
  obtain ⟨number, hnumber, hfound⟩ := table_eq_ok_iff.mp htable
  rw [perform_load_of_error hnumber hfound hload]
  exact ⟨fault, rfl, rfl, rfl⟩

/-- A request to load a definition that fails its checks fails as they do. -/
theorem failsWith_of_check {fault : Fault} (htable : s.table handle = .ok table)
    (hcheck : (definition.check s.config.walkBound).value = .error fault) :
    (s.perform (.command (.load handle definition))).2.FailsWith fault.kind fault.attachments :=
  failsWith_of_load htable (ClassTable.load_of_check_error hcheck)

/-- A request to load a definition succeeds exactly when the definition passes its checks and no class has its name, and
gives the number of classes as id. -/
theorem perform_load_result_eq_ok_iff {answer : Answer} (htable : s.table handle = .ok table) :
    (s.perform (.command (.load handle definition))).2.result = .ok answer ↔
      (∃ checked, (definition.check s.config.walkBound).value = .ok checked) ∧
        table.byString? definition.name = none ∧ answer = .loaded ⟨table.size⟩ := by
  obtain ⟨number, hnumber, hfound⟩ := table_eq_ok_iff.mp htable
  constructor
  · intro hok
    cases hload : (table.load s.config.walkBound s.heap definition).value with
    | error fault =>
      rw [perform_load_of_error hnumber hfound hload] at hok
      cases hok
    | ok loaded =>
      rw [perform_load_of_ok hnumber hfound hload] at hok
      obtain ⟨checked, hchecked, hfresh, rfl⟩ := ClassTable.load_eq_ok_iff.mp hload
      cases hok
      have hname := (ClassDefinition.check_eq_ok_iff.mp hchecked).1
      exact ⟨⟨checked, hchecked⟩, (byString?_of_checkedName hname).trans hfresh, rfl⟩
  · rintro ⟨⟨checked, hchecked⟩, hfresh, rfl⟩
    have hname := (ClassDefinition.check_eq_ok_iff.mp hchecked).1
    rw [byString?_of_checkedName hname] at hfresh
    rw [perform_load_of_ok hnumber hfound (ClassTable.load_eq_ok_iff.mpr ⟨checked, hchecked, hfresh, rfl⟩)]
    rfl

/-- Loading through a handle of a table is decided by the first rule that applies. -/
theorem load_decided (htable : s.table handle = .ok table) (definition : ClassDefinition) :
    s.DecidesLoad handle table definition where
  className hname := by
    obtain ⟨hkind, hdetails⟩ := nameFault_eq .ofClass definition.name
    rw [← hkind, ← hdetails]
    exact failsWith_of_check htable (ClassDefinition.check_of_not_isName hname)
  tooMany hname hmany := by
    obtain ⟨className, hchecked⟩ := (exists_checkedName_iff .ofClass).mpr hname
    rw [← quoted_of_checkedName hchecked]
    exact failsWith_of_check htable (ClassDefinition.check_of_lt hchecked hmany)
  repeated hname hfew hnot := by
    obtain ⟨className, hchecked⟩ := (exists_checkedName_iff .ofClass).mpr hname
    obtain ⟨ahead, name, behind, hsplit, hahead, hmem⟩ := exists_firstRepeat hnot
    rw [← quoted_of_checkedName hchecked]
    exact ⟨ahead, name, behind, hsplit, hahead, hmem, failsWith_of_check htable
      (ClassDefinition.check_of_firstRepeat hchecked hfew hsplit hahead hmem)⟩
  interfaceName hname hfew hnodup hnot := by
    obtain ⟨className, hchecked⟩ := (exists_checkedName_iff .ofClass).mpr hname
    obtain ⟨ahead, name, behind, hsplit, hahead, himproper⟩ := exists_firstImproper hnot
    obtain ⟨hkind, hdetails⟩ := nameFault_eq .ofInterface name
    refine ⟨ahead, name, behind, hsplit, hahead, himproper, ?_⟩
    rw [← hkind, ← hdetails]
    exact failsWith_of_check htable
      (ClassDefinition.check_of_firstImproper hchecked hfew hnodup hsplit hahead himproper)
  duplicate hname hfew hnodup hnames hpresent := by
    obtain ⟨checked, hchecked⟩ := ClassDefinition.exists_check_iff.mpr ⟨hname, hfew, hnodup, hnames⟩
    have hchecked' := (ClassDefinition.check_eq_ok_iff.mp hchecked).1
    obtain ⟨c, hc⟩ := Option.isSome_iff_exists.mp hpresent
    rw [byString?_of_checkedName hchecked'] at hc
    rw [← quoted_of_checkedName hchecked']
    exact failsWith_of_load htable (ClassTable.load_of_mem hchecked hc)
  loaded hname hfew hnodup hnames hfresh :=
    (perform_load_result_eq_ok_iff htable).mpr
      ⟨ClassDefinition.exists_check_iff.mpr ⟨hname, hfew, hnodup, hnames⟩, hfresh, rfl⟩
  loaded_iff := by
    simp only [perform_load_result_eq_ok_iff htable, ClassDefinition.exists_check_iff]
    tauto

/-- Everything is wrong with the definition but its own name and the number of its interfaces; the repeated one
decides. -/
theorem load_decided_repeated :
    let s := (start.run [.command .newTable, .command (.load 0 (.object "A"))]).1
    ∃ table, s.table 0 = .ok table ∧
      s.DecidesLoad 0 table ((ClassDefinition.object "A").implementsAll ["I", "", "J", "I"]) :=
  ⟨_, rfl, load_decided rfl _⟩

/-- The entry at the smallest position that equals an earlier one is told, not the empty name ahead of it. -/
example :
    ((start.run [.command .newTable, .command (.load 0 (.object "A"))]).1.perform
      (.command (.load 0 ((ClassDefinition.object "A").implementsAll ["I", "", "J", "I", "J"])))).2.FailsWith
        .malformedMetadata ["class \"A\" lists \"I\" twice"] :=
  ⟨.repeatedInterface ⟨[65], by decide⟩ "I", by cbv, rfl, by decide +kernel⟩

end Session

end ObjectModel
