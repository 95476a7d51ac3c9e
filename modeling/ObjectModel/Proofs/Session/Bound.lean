import ObjectModel.Proofs.Class.Interfaces
import ObjectModel.Proofs.Session.Loads

/-!
# The walk bound and the lookups

A class is accepted under one walk bound and later looked up under another. A lookup through the dispatch vector is
decided by as many interfaces as the bound of the lookup admits, a lookup through the class by all of them, and the two
never give different answers.
-/

namespace ObjectModel

/-- How the lookups of a name answer for a class that was loaded with the given interfaces under `bound`, when `limit`
is the bound in force. -/
structure LoadedClass.Answers (heap : Heap) (c : LoadedClass) (interfaces : List String) (bound limit : Nat)
    (name : CString) : Prop where
  /-- The checked lookup finds a name among the first interfaces, as many as there are and the bound admits. -/
  found : (Access.implementsInterface heap limit (some c.vector) name).value = .ok true ↔
    name.bytes ∈ (interfaces.map Utf8.bytesOf).take (min c.interfaceCount limit)
  /-- It fails when there are more interfaces than the bound admits and the name is not among those admitted. -/
  malformed : (∃ fault, (Access.implementsInterface heap limit (some c.vector) name).value = .error fault ∧
      fault.kind = .malformedMetadata) ↔
    limit < c.interfaceCount ∧ name.bytes ∉ (interfaces.map Utf8.bytesOf).take limit
  /-- It fails in no other way. -/
  fault : ∀ fault, (Access.implementsInterface heap limit (some c.vector) name).value = .error fault →
    fault = .walkBoundExceeded limit
  /-- It does not find any other name. -/
  absent : (Access.implementsInterface heap limit (some c.vector) name).value = .ok false ↔
    c.interfaceCount ≤ limit ∧ name.bytes ∉ interfaces.map Utf8.bytesOf
  /-- Every answer it gives is that of the lookup through the class. -/
  agrees : ∀ answer, (Access.implementsInterface heap limit (some c.vector) name).value = .ok answer →
    answer = c.implements heap name
  /-- It gives an answer when the bound is not below the one that the class was loaded under. -/
  answered : bound ≤ limit → (Access.implementsInterface heap limit (some c.vector) name).value =
    .ok (c.implements heap name)
  /-- The lookup through the class finds the names among all interfaces. -/
  trusted : c.implements heap name = true ↔ name.bytes ∈ interfaces.map Utf8.bytesOf

/-- The lookups of all classes of a table answer as what was loaded into it says, under the bound in force; and the
lookup through a class is answered alike whatever configuration is installed. -/
def Session.LookupsAgree (s : Session) (number : Nat) (log : List (ClassDefinition × Nat)) : Prop :=
  ∀ table, s.tables[number]? = some table → ∀ c ∈ table.classes, ∃ definition bound,
    log[c.info.id.index]? = some (definition, bound) ∧ c.info.name.bytes = Utf8.bytesOf definition.name ∧
      c.interfaceCount = definition.interfaces.length ∧ ∀ name,
        c.Answers s.heap definition.interfaces bound s.config.walkBound name ∧
          ∀ slot operand, s.classOf operand = .ok c →
            (({ s with slot } : Session).ask (.classImplements operand name)).result =
              .ok (.flag (c.implements s.heap name))

namespace LoadedClass.Realizes

variable {heap : Heap} {c : LoadedClass} {i : Nat} {definition : ClassDefinition}

/-- A checked lookup is a fault exactly when the bound admits neither the name nor all interfaces. -/
theorem value_eq_error_iff (h : c.Realizes heap i definition) {limit : Nat} {name : CString} {fault : Fault} :
    (Access.implementsInterface heap limit (some c.vector) name).value = .error fault ↔
      (limit < c.interfaceCount ∧ name ∉ (c.interfaces heap).take limit) ∧ fault = .walkBoundExceeded limit := by
  rw [h.value_implementsInterface]
  by_cases hmem : name ∈ (c.interfaces heap).take limit
  · simp [hmem]
  · by_cases hlt : limit < c.interfaceCount
    · simp [hmem, hlt, eq_comm]
    · simp [hmem, hlt]

/-- A checked lookup finds exactly the names that the bound admits. -/
theorem value_eq_true_iff (h : c.Realizes heap i definition) {limit : Nat} {name : CString} :
    (Access.implementsInterface heap limit (some c.vector) name).value = .ok true ↔
      name ∈ (c.interfaces heap).take limit := by
  rw [h.value_implementsInterface]
  by_cases hmem : name ∈ (c.interfaces heap).take limit
  · simp [hmem]
  · by_cases hlt : limit < c.interfaceCount
    · simp [hmem, hlt]
    · simp [hmem, hlt]

/-- A checked lookup denies a name exactly when the bound admits all interfaces and the name is none of them. -/
theorem value_eq_false_iff (h : c.Realizes heap i definition) {limit : Nat} {name : CString} :
    (Access.implementsInterface heap limit (some c.vector) name).value = .ok false ↔
      c.interfaceCount ≤ limit ∧ name ∉ c.interfaces heap := by
  rw [h.value_implementsInterface]
  by_cases hlt : limit < c.interfaceCount
  · have hnot := Nat.not_le.mpr hlt
    by_cases hmem : name ∈ (c.interfaces heap).take limit
    · simp [hmem, hnot]
    · simp [hmem, hlt, hnot]
  · have hle := Nat.not_lt.mp hlt
    rw [List.take_of_length_le (h.length_interfaces ▸ hle)]
    by_cases hmem : name ∈ c.interfaces heap
    · simp [hmem]
    · simp [hmem, hlt, hle]

/-- A class that was accepted answers as its definition says, under any bound. -/
theorem answers (h : c.Realizes heap i definition) {bound : Nat} (hbound : definition.interfaces.length ≤ bound)
    (limit : Nat) (name : CString) : c.Answers heap definition.interfaces bound limit name where
  found := by
    have hcount : c.interfaceCount = (definition.interfaces.map Utf8.bytesOf).length :=
      h.interfaceCount.trans (List.length_map _).symm
    rw [h.value_eq_true_iff, h.mem_take_interfaces_iff, hcount, Nat.min_comm, ← List.take_eq_take_min]
  malformed := by
    rw [← h.mem_take_interfaces_iff]
    constructor
    · rintro ⟨fault, hfault, -⟩
      exact (h.value_eq_error_iff.mp hfault).1
    · intro hnot
      exact ⟨_, h.value_eq_error_iff.mpr ⟨hnot, rfl⟩, rfl⟩
  fault fault hfault := (h.value_eq_error_iff.mp hfault).2
  absent := by
    rw [h.value_eq_false_iff, h.mem_interfaces_iff]
  agrees answer hanswer := by
    cases answer with
    | true => exact (h.implements_iff.mpr (List.mem_of_mem_take (h.value_eq_true_iff.mp hanswer))).symm
    | false =>
      obtain ⟨-, hnot⟩ := h.value_eq_false_iff.mp hanswer
      exact (Bool.eq_false_iff.mpr fun himplements => hnot (h.implements_iff.mp himplements)).symm
  answered hle := by
    have hcount : c.interfaceCount ≤ limit := h.interfaceCount ▸ hbound.trans hle
    cases himplements : c.implements heap name with
    | true =>
      rw [h.value_eq_true_iff, List.take_of_length_le (h.length_interfaces ▸ hcount)]
      exact h.implements_iff.mp himplements
    | false =>
      rw [h.value_eq_false_iff, ← h.implements_iff, himplements]
      exact ⟨hcount, Bool.false_ne_true⟩
  trusted := h.implements_iff.trans h.mem_interfaces_iff

end LoadedClass.Realizes

namespace Session

/-- The lookups agree in every session of a run, whatever the bounds were and are. -/
theorem lookupsAgree_run (requests : List Request) (number : Nat) :
    (start.run requests).1.LookupsAgree number (loaded number (start.history requests)) := by
  intro table htable c hc
  obtain ⟨definition, bound, hentry, hrealizes, checked, hchecked⟩ := (records_run requests number).of_mem htable hc
  obtain ⟨-, hbound, -⟩ := ClassDefinition.check_eq_ok_iff.mp hchecked
  refine ⟨definition, bound, hentry, hrealizes.name, hrealizes.interfaceCount, fun name => ?_⟩
  refine ⟨hrealizes.answers hbound _ name, fun slot operand hoperand => ?_⟩
  have hsame : ({ (start.run requests).1 with slot } : Session).classOf operand = .ok c := hoperand
  rw [ask, hsame]
  rfl

/-- A class of two interfaces, when the bound is lowered to one: the second of them is not reached any more. -/
example :
    let s := (start.run [.command .newTable, .command (.load 0 ((ClassDefinition.object "A").implementsAll ["I", "J"])),
      .command (.replace ⟨.utf16, 1⟩)]).1
    let lookup := fun name => (s.ask (.readImplements (.ofClass (.byId 0 ⟨0⟩)) name)).result
    lookup ⟨[73], by decide⟩ = .ok (.flag true) ∧
      lookup ⟨[74], by decide⟩ = .error (.faulted (.walkBoundExceeded 1)) := by
  cbv

end Session

end ObjectModel
