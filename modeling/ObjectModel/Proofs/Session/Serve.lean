import ObjectModel.Proofs.Session.Precedence
import ObjectModel.Session.Serve

/-!
# Serving is performing

Refusing a text that is too long before it is written changes nothing that a client can see: the session and the response
are those of the request as it is performed.
-/

namespace ObjectModel

/-- A text has only characters of the encoding exactly when it is encoded. -/
theorem Encoding.hasAll_iff {e : Encoding} {text : String} :
    e.hasAll text = true ↔ ∃ values, e.encode text.toList = .ok values := by
  rw [encode_isOk_iff]
  cases e with
  | latin1 => simp [hasAll]
  | utf16 => simp [hasAll]
  | utf8 => simp [hasAll]

/-- What a string knows is how many elements its text needs. -/
theorem Encoding.eq_lengthOf_of_knownLength? {e : Encoding} {text : String} {count : Nat}
    (h : e.knownLength? text = some count) : count = e.lengthOf text := by
  cases e with
  | utf16 => cases h
  | latin1 =>
    cases h
    rfl
  | utf8 =>
    cases h
    rfl

/-- A string that is refused for its length is refused when it is created. -/
theorem Instance.newString_of_tooLong? {c charsClass : LoadedClass} {text : String} {e : Encoding} {fault : Fault}
    (h : tooLong? c charsClass text e = some fault) (heap : Heap) : newString heap c charsClass text e = .error fault := by
  rw [tooLong?] at h
  split at h
  · cases h
  · next count hcount =>
    rw [Option.ite_none_right_eq_some, Option.ite_none_right_eq_some] at h
    obtain ⟨hlong, ⟨hkind, hchars, hall⟩, hfault⟩ := h
    obtain ⟨values, hencode⟩ := Encoding.hasAll_iff.mp hall
    rw [Encoding.eq_lengthOf_of_knownLength? hcount, ← Encoding.length_of_encode hencode] at hlong hfault
    rw [newString_of_maxLength_lt hkind hchars hencode hlong, Option.some.inj hfault]

namespace Session

open Response

variable {s : Session} {c : Command} {fault : Fault}

/-- A command that is refused for the length of a text fails, and changes nothing. -/
theorem perform_of_tooLong? (h : s.tooLong? c = some fault) :
    s.perform (.command c) = (s, ⟨.error (.faulted fault), []⟩) := by
  cases c with
  | newString operand charactersOperand text e =>
    rw [tooLong?] at h
    split at h
    · next c charsClass hc hchars =>
      have hattempt := attempt_newString hc hchars text e
      rw [Instance.newString_of_tooLong? h] at hattempt
      exact perform_of_created_error hattempt
    · cases h
  | newStringIn handle text =>
    rw [tooLong?] at h
    split at h
    · cases h
    · next table htable =>
      split at h
      · next c charsClass hc hchars =>
        have hattempt := attempt_newStringIn text htable hc hchars
        rw [Instance.newString_of_tooLong? h] at hattempt
        exact perform_of_created_error hattempt
      · cases h
  | _ => cases h

/-- A request is served as it is performed. -/
theorem serve_eq_perform (s : Session) (request : Request) : s.serve request = s.perform request := by
  cases request with
  | query q => rfl
  | command c =>
    rw [serve]
    cases hlong : s.tooLong? c with
    | none => rfl
    | some fault => exact (perform_of_tooLong? hlong).symm

end Session

end ObjectModel
