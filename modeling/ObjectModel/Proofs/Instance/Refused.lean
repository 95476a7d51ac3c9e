import ObjectModel.Proofs.Instance.Created

/-!
# When instances are refused

Why an array or a string is not created, said once for each of the checks in their order: the kind of the class, for a
string what the encoding lacks, the kind of the class of the characters, and last the number of elements.
-/

namespace ObjectModel

/-- A class is refused for a kind exactly when it has another one. -/
theorem LoadedClass.expectKind_eq_error_iff {c : LoadedClass} {expected : TypeKind} {fault : Fault} :
    c.expectKind expected = .error fault ↔
      c.info.kind ≠ expected ∧ fault = .wrongKind c.info.name c.info.kind expected := by
  rw [expectKind]
  split
  · next hkind => exact iff_of_false (by rintro ⟨⟩) (fun h => h.1 hkind)
  · next hkind =>
    rw [Except.error.injEq]
    exact ⟨fun h => ⟨hkind, h.symm⟩, fun h => h.2.symm⟩

/-- An array is refused for a class of another kind, and else for having too many elements. -/
theorem Heap.allocateArray_eq_error_iff {heap : Heap} {c : LoadedClass} {t : ElementType} {values : List t.Value}
    {fault : Fault} :
    heap.allocateArray c t values = .error fault ↔
      (c.info.kind ≠ .array t ∧ fault = .wrongKind c.info.name c.info.kind (.array t)) ∨
        (c.info.kind = .array t ∧ maxLength < values.length ∧ fault = .tooManyElements values.length) := by
  rw [allocateArray]
  cases hexpect : c.expectKind (.array t) with
  | error other =>
    obtain ⟨hkind, rfl⟩ := LoadedClass.expectKind_eq_error_iff.mp hexpect
    simp [hkind, eq_comm]
  | ok u =>
    have hkind := Instance.expectKind_eq_ok_iff.mp hexpect
    dsimp only
    split
    · next hlength => simp [hkind, hlength, eq_comm]
    · next hlength => simp [hkind, hlength]

namespace Instance

variable {heap : Heap} {c charsClass : LoadedClass} {text : String} {e : Encoding} {fault : Fault}

/-- A string is refused for a class of another kind, else for a character that the encoding lacks, and else as the array
of its characters is. -/
theorem newString_eq_error_iff :
    newString heap c charsClass text e = .error fault ↔
      (c.info.kind ≠ .string ∧ fault = .wrongKind c.info.name c.info.kind .string) ∨
        (c.info.kind = .string ∧ e.encode text.toList = .error fault) ∨
          (c.info.kind = .string ∧ ∃ values, e.encode text.toList = .ok values ∧
            heap.allocateArray charsClass e.elementType values = .error fault) := by
  rw [newString]
  cases hexpect : c.expectKind .string with
  | error other =>
    obtain ⟨hkind, rfl⟩ := LoadedClass.expectKind_eq_error_iff.mp hexpect
    simp [hkind, eq_comm]
  | ok u =>
    have hkind := expectKind_eq_ok_iff.mp hexpect
    cases e.encode text.toList with
    | error other => simp [hkind]
    | ok values => simp [hkind, map_eq_error_iff]

/-- A string is refused as violating the encoding exactly when its class fits and the encoding lacks a character. -/
theorem newString_eq_invalidEncoding_iff :
    (newString heap c charsClass text e = .error fault ∧ fault.kind = .invalidEncoding) ↔
      c.info.kind = .string ∧ e.encode text.toList = .error fault := by
  constructor
  · rintro ⟨hnew, hkind⟩
    rcases newString_eq_error_iff.mp hnew with ⟨-, rfl⟩ | hencode | ⟨-, values, -, hallocate⟩
    · cases hkind
    · exact hencode
    · rcases Heap.allocateArray_eq_error_iff.mp hallocate with ⟨-, rfl⟩ | ⟨-, -, rfl⟩ <;> cases hkind
  · rintro ⟨hkind, hencode⟩
    exact ⟨newString_of_encode_error hkind hencode, Encoding.kind_of_encode_error hencode⟩

section Table

variable {table : ClassTable} {config : Config}

/-- Without a string class a table has no string. -/
theorem newStringIn_of_noString (h : table.byString? stringClassName = none) :
    newStringIn heap table config text = .error (.classNotLoaded stringClassName) := by
  rw [newStringIn, requiredClass, h]

/-- Without a class of the characters a table has no string either. -/
theorem newStringIn_of_noCharacters (hc : table.byString? stringClassName = some c)
    (h : table.byString? config.encoding.elementType.arrayDescriptor = none) :
    newStringIn heap table config text = .error (.classNotLoaded config.encoding.elementType.arrayDescriptor) := by
  rw [newStringIn, requiredClass, hc, requiredClass, h]

end Table

end Instance

end ObjectModel
