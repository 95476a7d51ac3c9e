import ObjectModel.Proofs.Session.Table

/-!
# Handles keep their tables

A handle stands for one table from when it is made until it is given up, and its number is not used again. A table that
is made is behind none of the handles that were there, and a clone stands for the table of its original.
-/

namespace ObjectModel.Session

/-- Every handle stands for a table that is there. -/
def Housed (s : Session) : Prop :=
  ∀ handle number, s.tableOf? handle = some number → number < s.tables.length

variable {s next : Session} {c : Command} {handle number : Nat}

/-- A number that no handle had yet stands for no table. -/
theorem tableOf?_eq_none (h : s.handles.length ≤ handle) : s.tableOf? handle = none := by
  rw [tableOf?, List.getElem?_eq_none h, Option.join_none]

/-- A command leaves the handles as they are, adds one for a table of its own or for that of another handle, or gives
one up. -/
theorem Effect.handles_cases (h : s.Effect c next) :
    (next.handles = s.handles ∧ next.tables.length = s.tables.length) ∨
    (next.handles = s.handles ++ [some s.tables.length] ∧ next.tables.length = s.tables.length + 1) ∨
    (∃ handle number, s.tableOf? handle = some number ∧ next.handles = s.handles ++ [some number] ∧
      next.tables = s.tables) ∨
    (∃ handle, c = .dropTable handle ∧ next.handles = s.handles.set handle none ∧ next.tables = s.tables) := by
  cases h with
  | newTable => exact .inr (.inl ⟨rfl, List.length_append⟩)
  | newBuiltinTable => exact .inr (.inl ⟨rfl, List.length_append⟩)
  | cloneTable hnumber => exact .inr (.inr (.inl ⟨_, _, hnumber, rfl, rfl⟩))
  | dropTable => exact .inr (.inr (.inr ⟨_, rfl, rfl, rfl⟩))
  | load => exact .inl ⟨rfl, List.length_set⟩
  | _ => exact .inl ⟨rfl, rfl⟩

/-- A handle that is added stands for its table, and all others for what they stood for. -/
theorem tableOf?_concat {place : Option Nat} (hhandles : next.handles = s.handles ++ [place]) :
    next.tableOf? handle = if handle = s.handles.length then place else s.tableOf? handle := by
  rw [tableOf?, hhandles]
  split
  · next heq => rw [heq, List.getElem?_concat_length, Option.join_some]
  · next hne =>
    rcases Nat.lt_or_gt_of_ne hne with hlt | hgt
    · rw [List.getElem?_append_left hlt, tableOf?]
    · rw [tableOf?_eq_none (Nat.le_of_lt hgt), List.getElem?_eq_none (by rw [List.length_append]; exact hgt),
        Option.join_none]

/-- A table that is added is behind the handle that is added for it. -/
theorem tableOf?_addTable (s : Session) (heap : Heap) (table : ClassTable) :
    (s.addTable heap table).tableOf? s.handles.length = some s.tables.length := by
  rw [tableOf?, addTable, List.getElem?_concat_length, Option.join_some]

/-- A handle that is given up stands for no table, and all others for what they stood for. -/
theorem tableOf?_set_none {dropped : Nat} (hhandles : next.handles = s.handles.set dropped none) :
    next.tableOf? handle = if dropped = handle then none else s.tableOf? handle := by
  rw [tableOf?, hhandles, List.getElem?_set]
  split
  · split <;> rfl
  · rfl

/-- Before anything is made there is no handle. -/
theorem housed_start : start.Housed := fun _ _ h => nomatch h

/-- Every command leaves the handles with tables that are there. -/
theorem Housed.step (h : s.Housed) (heffect : s.Effect c next) : next.Housed := by
  intro handle number hnumber
  rcases heffect.handles_cases with ⟨hhandles, hlength⟩ | ⟨hhandles, hlength⟩ | ⟨original, _, horiginal, hhandles, htables⟩ |
    ⟨_, -, hhandles, htables⟩
  · rw [tableOf?, hhandles] at hnumber
    exact hlength ▸ h handle number hnumber
  · rw [tableOf?_concat hhandles] at hnumber
    split at hnumber
    · cases hnumber
      exact hlength ▸ Nat.lt_succ_self _
    · exact hlength ▸ Nat.lt_succ_of_lt (h handle number hnumber)
  · rw [tableOf?_concat hhandles] at hnumber
    rw [htables]
    split at hnumber
    · cases hnumber
      exact h original number horiginal
    · exact h handle number hnumber
  · rw [tableOf?_set_none hhandles] at hnumber
    rw [htables]
    split at hnumber
    · cases hnumber
    · exact h handle number hnumber

/-- After every run the handles stand for tables that are there. -/
theorem housed_run (requests : List Request) : (start.run requests).1.Housed :=
  run_induction (fun _ _ _ heffect h => h.step heffect) housed_start requests

/-- A command does not take away a handle, unless it gives it up. -/
theorem Effect.tableOf?_eq (h : s.Effect c next) (hhandle : handle < s.handles.length) :
    next.tableOf? handle = s.tableOf? handle ∨ c = .dropTable handle ∧ next.tableOf? handle = none := by
  have hne : handle ≠ s.handles.length := Nat.ne_of_lt hhandle
  rcases h.handles_cases with ⟨hhandles, -⟩ | ⟨hhandles, -⟩ | ⟨_, _, -, hhandles, -⟩ | ⟨dropped, rfl, hhandles, -⟩
  · exact .inl (by rw [tableOf?, hhandles, tableOf?])
  · exact .inl (by rw [tableOf?_concat hhandles, if_neg hne])
  · exact .inl (by rw [tableOf?_concat hhandles, if_neg hne])
  · rw [tableOf?_set_none hhandles]
    split
    · next hsame => exact .inr ⟨congrArg Command.dropTable hsame, rfl⟩
    · exact .inl rfl

/-- There are not fewer places for handles after a command. -/
theorem Effect.length_handles_le (h : s.Effect c next) : s.handles.length ≤ next.handles.length := by
  rcases h.handles_cases with ⟨hhandles, -⟩ | ⟨hhandles, -⟩ | ⟨_, _, -, hhandles, -⟩ | ⟨_, -, hhandles, -⟩
  · exact Nat.le_of_eq (congrArg List.length hhandles.symm)
  · rw [hhandles, List.length_append]
    exact Nat.le_add_right _ _
  · rw [hhandles, List.length_append]
    exact Nat.le_add_right _ _
  · rw [hhandles, List.length_set]

/-- A handle keeps its table until a request gives it up. -/
theorem tableOf?_run (h : s.tableOf? handle = some number) (requests : List Request) :
    (s.run requests).1.tableOf? handle = some number ∨
      (s.run requests).1.tableOf? handle = none ∧ .command (.dropTable handle) ∈ requests := by
  have hlt : handle < s.handles.length := by
    apply Nat.lt_of_not_le
    intro hle
    cases (tableOf?_eq_none hle).symm.trans h
  -- A handle that was given up must not be made again: new ones come behind all places there are.
  have hrun := kept_until (.dropTable handle)
    (P := fun later => handle < later.handles.length ∧ later.tableOf? handle = some number)
    (Q := fun later => handle < later.handles.length ∧ later.tableOf? handle = none) ?_ ?_ ⟨hlt, h⟩ requests
  · exact hrun.imp And.right fun ⟨⟨_, hnone⟩, hmem⟩ => ⟨hnone, hmem⟩
  · intro found c next heffect ⟨hplace, hnumber⟩
    have hnext := hplace.trans_le heffect.length_handles_le
    rcases heffect.tableOf?_eq hplace with hsame | ⟨hdropped, hnone⟩
    · exact .inl ⟨hnext, hsame.trans hnumber⟩
    · exact .inr ⟨hdropped, hnext, hnone⟩
  · intro found c next heffect ⟨hplace, hnone⟩
    exact ⟨hplace.trans_le heffect.length_handles_le,
      (heffect.tableOf?_eq hplace).elim (fun hsame => hsame.trans hnone) And.right⟩

end ObjectModel.Session
