import ObjectModel.Proofs.Session.Growth

/-!
# What instances were created for

An instance is numbered by its place among all that were created, so the history says what it was created for: the
classes that the command named then. It is made for them as long as it lives, and they stay in their tables.
-/

namespace ObjectModel.Session

/-- What the instances were created for, in order. -/
def creations (history : List (Session × Command)) : List Creation :=
  history.flatMap fun entry => (entry.1.creation? entry.2).toList

/-- Every instance that was not given up is made for what it was created for, by classes that are in their tables. -/
structure Tracks (s : Session) (created : List Creation) : Prop where
  length : s.instances.length = created.length
  live : ∀ i value, s.instance? i = some value → ∃ creation, created[i]? = some creation ∧ s.Knows creation ∧
    value.MadeFor s.heap creation.ofClass.loaded creation.charactersClass

variable {s next : Session} {c : Command} {created : List Creation} {i : Nat} {value : Instance}

/-- No instance has a number that was not given yet. -/
theorem instance?_eq_none (h : s.instances.length ≤ i) : s.instance? i = none := by
  rw [instance?, List.getElem?_eq_none h, Option.join_none, Option.map_none]

/-- A command leaves the instances as they are, adds the one that it creates, or gives up one. -/
theorem Effect.instances_cases (h : s.Effect c next) :
    (s.creation? c = none ∧ next.instances = s.instances) ∨
    (∃ creation value through, s.creation? c = some creation ∧ next.instances = s.instances ++ [some ⟨value, through⟩] ∧
      value.MadeFor next.heap creation.ofClass.loaded creation.charactersClass) ∨
    (∃ i, c = .dropInstance i ∧ next.instances = s.instances.set i none) := by
  cases h with
  | create hcreation hcreated => exact .inr (.inl ⟨_, _, _, hcreation, rfl, hcreated.value⟩)
  | dropInstance => exact .inr (.inr ⟨_, rfl, rfl⟩)
  | _ => exact .inl ⟨rfl, rfl⟩

/-- There are not fewer places for instances after a command. -/
theorem Effect.length_instances_le (h : s.Effect c next) : s.instances.length ≤ next.instances.length := by
  rcases h.instances_cases with ⟨-, hinstances⟩ | ⟨_, _, _, -, hinstances, -⟩ | ⟨_, -, hinstances⟩
  · exact Nat.le_of_eq (congrArg List.length hinstances.symm)
  · rw [hinstances, List.length_append]
    exact Nat.le_add_right _ _
  · rw [hinstances, List.length_set]

/-- A place for an instance keeps what it has until the instance is given up. -/
theorem Effect.instance?_eq (h : s.Effect c next) (hi : i < s.instances.length) :
    next.instance? i = s.instance? i ∨ c = .dropInstance i ∧ next.instance? i = none := by
  rcases h.instances_cases with ⟨-, hinstances⟩ | ⟨_, _, _, -, hinstances, -⟩ | ⟨j, rfl, hinstances⟩
  · exact .inl (by rw [instance?, hinstances, instance?])
  · exact .inl (by rw [instance?, hinstances, List.getElem?_append_left hi, instance?])
  · by_cases hsame : j = i
    · cases hsame
      exact .inr ⟨rfl, by rw [instance?, hinstances, List.getElem?_set_self hi, Option.join_some, Option.map_none]⟩
    · exact .inl (by rw [instance?, hinstances, List.getElem?_set_ne hsame, instance?])

/-- An instance with a number that was not given before is the one that the command creates. -/
theorem Effect.newest_of_length_le (h : s.Effect c next) (hi : s.instances.length ≤ i)
    (hlive : next.instance? i = some value) :
    i = s.instances.length ∧ ∃ creation, s.creation? c = some creation ∧
      value.MadeFor next.heap creation.ofClass.loaded creation.charactersClass := by
  rcases h.instances_cases with ⟨-, hinstances⟩ | ⟨creation, made, through, hcreation, hinstances, hmade⟩ |
    ⟨_, -, hinstances⟩
  · cases (instance?_eq_none (hinstances ▸ hi)).symm.trans hlive
  · have hlength : i = s.instances.length := by
      apply Nat.le_antisymm _ hi
      apply Nat.le_of_not_lt
      intro hlt
      have hbehind : next.instances.length ≤ i := by
        rw [hinstances, List.length_append, List.length_singleton]
        exact hlt
      cases (instance?_eq_none hbehind).symm.trans hlive
    rw [instance?, hinstances, hlength, List.getElem?_concat_length, Option.join_some, Option.map_some] at hlive
    cases hlive
    exact ⟨hlength, creation, hcreation, hmade⟩
  · have hbehind : next.instances.length ≤ i := by
      rw [hinstances, List.length_set]
      exact hi
    cases (instance?_eq_none hbehind).symm.trans hlive

/-- Before anything is made there are no instances. -/
theorem tracks_start : start.Tracks [] where
  length := rfl
  live i value hi := by cases hi

/-- A command adds to what instances were created for that of the instance it creates. -/
theorem Tracks.step (h : s.Tracks created) (heffect : s.Effect c next) :
    next.Tracks (created ++ (s.creation? c).toList) where
  length := by
    rw [List.length_append, ← h.length]
    rcases heffect.instances_cases with ⟨hnone, hinstances⟩ | ⟨_, _, _, hcreation, hinstances, -⟩ | ⟨_, rfl, hinstances⟩
    · rw [hinstances, hnone]
      rfl
    · rw [hinstances, hcreation, List.length_append]
      rfl
    · rw [hinstances, List.length_set]
      rfl
  live i value hi := by
    have hgrows := heffect.grows
    by_cases hlt : i < s.instances.length
    · rcases heffect.instance?_eq hlt with hsame | ⟨-, hnone⟩
      · obtain ⟨creation, hcreation, hknows, hmade⟩ := h.live i value (hsame ▸ hi)
        rw [List.getElem?_append_left (h.length ▸ hlt)]
        exact ⟨creation, hcreation, hknows.mono hgrows, hmade.mono hgrows.heap⟩
      · cases hnone.symm.trans hi
    · obtain ⟨hlength, creation, hcreation, hmade⟩ := heffect.newest_of_length_le (Nat.le_of_not_lt hlt) hi
      refine ⟨creation, ?_, (knows_of_creation? hcreation).mono hgrows, hmade⟩
      rw [hcreation, Option.toList_some, hlength, h.length, List.getElem?_concat_length]

/-- After every run the history says what each instance was created for. -/
theorem tracks_run (requests : List Request) : (start.run requests).1.Tracks (creations (start.history requests)) := by
  apply history_induction (P := fun s log => s.Tracks (creations log)) _ [] tracks_start
  intro s c next log heffect h
  rw [creations, List.flatMap_append, List.flatMap_singleton]
  exact h.step heffect

/-- A string for a builtin table is created for its string class, and its characters for its class of character arrays. -/
example :
    (creations (start.history [.command .newBuiltinTable, .command (.newStringIn 0 "a")])).map (fun creation =>
      (creation.ofClass.loaded.info.id, creation.charactersClass.map (·.info.id))) = [(⟨1⟩, some ⟨4⟩)] := by
  cbv

end ObjectModel.Session
