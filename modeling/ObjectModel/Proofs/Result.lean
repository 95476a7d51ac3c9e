import Mathlib.Data.List.Forall2
import ObjectModel.Event

/-!
# Results

When an operation that is built from others succeeds.
-/

namespace ObjectModel

section Results

variable {ε ε' α β : Type} {result : Except ε α}

/-- A function applied to a result gives a value exactly when the result is one. -/
theorem map_eq_ok_iff {f : α → β} {b : β} : result.map f = .ok b ↔ ∃ a, result = .ok a ∧ f a = b := by
  cases result with
  | error e => exact iff_of_false (fun h => nomatch h) (fun ⟨_, h, _⟩ => nomatch h)
  | ok a =>
    change Except.ok (f a) = .ok b ↔ _
    simp

/-- A function applied to a result fails exactly as the result does. -/
theorem map_eq_error_iff {f : α → β} {e : ε} : result.map f = .error e ↔ result = .error e := by
  cases result with
  | error other =>
    change Except.error other = .error e ↔ _
    simp
  | ok a => exact iff_of_false (fun h => nomatch h) (fun h => nomatch h)

/-- Renaming the faults of a result leaves its values. -/
theorem mapError_eq_ok_iff {f : ε → ε'} {a : α} : result.mapError f = .ok a ↔ result = .ok a := by
  cases result with
  | error e => exact iff_of_false (fun h => nomatch h) (fun h => nomatch h)
  | ok b =>
    change Except.ok b = .ok a ↔ _
    simp

/-- Renaming the faults of a result leaves it a fault. -/
theorem mapError_eq_error_iff {f : ε → ε'} {e' : ε'} :
    result.mapError f = .error e' ↔ ∃ e, result = .error e ∧ f e = e' := by
  cases result with
  | error e =>
    change Except.error (f e) = .error e' ↔ _
    simp
  | ok b => exact iff_of_false (fun h => nomatch h) (fun ⟨_, h, _⟩ => nomatch h)

/-- An operation on every entry of a list that succeeds does so on each of them, and gives its values in order. -/
theorem forall₂_of_mapM_eq_ok {f : α → Except ε β} {as : List α} {bs : List β} (h : as.mapM f = .ok bs) :
    List.Forall₂ (fun a b => f a = .ok b) as bs := by
  induction as generalizing bs with
  | nil =>
    cases h
    exact .nil
  | cons a rest ih =>
    rw [List.mapM_cons] at h
    cases hfirst : f a with
    | error e =>
      rw [hfirst] at h
      cases h
    | ok b =>
      cases hothers : rest.mapM f with
      | error e =>
        rw [hfirst, hothers] at h
        cases h
      | ok others =>
        rw [hfirst, hothers] at h
        cases h
        exact .cons hfirst (ih hothers)

/-- An operation on every entry of a list succeeds when it does so on each of them. -/
theorem exists_mapM_eq_ok {f : α → Except ε β} {as : List α} (h : ∀ a ∈ as, ∃ b, f a = .ok b) :
    ∃ bs, as.mapM f = .ok bs := by
  induction as with
  | nil => exact ⟨[], rfl⟩
  | cons a rest ih =>
    obtain ⟨⟨b, hb⟩, hrest⟩ := List.forall_mem_cons.mp h
    obtain ⟨others, hothers⟩ := ih hrest
    refine ⟨b :: others, ?_⟩
    rw [List.mapM_cons, hb, hothers]
    rfl

/-- An operation on every entry of a list fails as it does on the first entry on which it fails. -/
theorem mapM_eq_error_iff {f : α → Except ε β} {as : List α} {e : ε} : as.mapM f = .error e ↔
    ∃ ahead a behind, as = ahead ++ a :: behind ∧ (∀ other ∈ ahead, ∃ b, f other = .ok b) ∧ f a = .error e := by
  constructor
  · intro h
    induction as with
    | nil => cases h
    | cons a rest ih =>
      rw [List.mapM_cons] at h
      cases hfirst : f a with
      | error other =>
        rw [hfirst] at h
        cases h
        exact ⟨[], a, rest, rfl, List.forall_mem_nil _, hfirst⟩
      | ok b =>
        cases hothers : rest.mapM f with
        | error other =>
          rw [hfirst, hothers] at h
          cases h
          obtain ⟨ahead, found, behind, rfl, hahead, hfound⟩ := ih hothers
          exact ⟨a :: ahead, found, behind, rfl, List.forall_mem_cons.mpr ⟨⟨b, hfirst⟩, hahead⟩, hfound⟩
        | ok others =>
          rw [hfirst, hothers] at h
          cases h
  · rintro ⟨ahead, a, behind, rfl, hahead, ha⟩
    obtain ⟨bs, hbs⟩ := exists_mapM_eq_ok hahead
    rw [List.mapM_append, hbs, List.mapM_cons, ha]
    rfl

/-- An operation on every entry of a list that fails does so on one of them. -/
theorem exists_mem_of_mapM_eq_error {f : α → Except ε β} {as : List α} {e : ε} (h : as.mapM f = .error e) :
    ∃ a ∈ as, f a = .error e := by
  obtain ⟨ahead, a, behind, rfl, -, ha⟩ := mapM_eq_error_iff.mp h
  exact ⟨a, List.mem_append_right _ List.mem_cons_self, ha⟩

/-- An operation on every entry of a list that succeeds gives a value for each entry. -/
theorem exists_of_mapM_eq_ok {f : α → Except ε β} {as : List α} {bs : List β} (h : as.mapM f = .ok bs) {a : α}
    (ha : a ∈ as) : ∃ b, f a = .ok b := by
  have hall := forall₂_of_mapM_eq_ok h
  clear h
  induction hall with
  | nil => cases ha
  | cons hfirst _ ih =>
    rcases List.mem_cons.mp ha with rfl | hrest
    · exact ⟨_, hfirst⟩
    · exact ih hrest

/-- Each value that an operation on every entry of a list gives is that of one of the entries. -/
theorem exists_mem_of_mapM_eq_ok {f : α → Except ε β} {as : List α} {bs : List β} (h : as.mapM f = .ok bs) {b : β}
    (hb : b ∈ bs) : ∃ a ∈ as, f a = .ok b := by
  have hall := forall₂_of_mapM_eq_ok h
  clear h
  induction hall with
  | nil => cases hb
  | cons hfirst _ ih =>
    rcases List.mem_cons.mp hb with rfl | hrest
    · exact ⟨_, List.mem_cons_self, hfirst⟩
    · obtain ⟨a, hmem, ha⟩ := ih hrest
      exact ⟨a, List.mem_cons_of_mem _ hmem, ha⟩

/-- An operation after another succeeds exactly when both do. -/
theorem Outcome.value_andThen_eq_ok_iff {first : Outcome α} {next : α → Outcome β} {b : β} :
    (first.andThen next).value = .ok b ↔ ∃ a, first.value = .ok a ∧ (next a).value = .ok b := by
  rw [andThen]
  cases first.value with
  | error fault => simp
  | ok a => simp

/-- An operation after another fails exactly when the first does, or the second does after the first has succeeded. -/
theorem Outcome.value_andThen_eq_error_iff {first : Outcome α} {next : α → Outcome β} {fault : Fault} :
    (first.andThen next).value = .error fault ↔
      first.value = .error fault ∨ ∃ a, first.value = .ok a ∧ (next a).value = .error fault := by
  rw [andThen]
  cases first.value with
  | error other => simp
  | ok a => simp

end Results

end ObjectModel
