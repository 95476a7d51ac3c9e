import ObjectModel.Proofs.Session.Loads

/-!
# Dispatch vectors tell classes apart

A class that is loaded gets a dispatch vector that nothing else has, whatever table it is loaded into. So in every
session of a run the dispatch vector of a class leads to that class of that table only.
-/

namespace ObjectModel.Session

variable {s next : Session} {c : Command} {origin other : TableClass} {requests : List Request}

/-- A class of a session with one more table is one that was there, or it is in that table. -/
theorem has_of_addTable {heap : Heap} {table : ClassTable} (h : (s.addTable heap table).Has origin) :
    s.Has origin ∨ origin.table = s.tables.length ∧ origin.loaded ∈ table.classes := by
  obtain ⟨found, hfound, hmem⟩ := h
  rcases getElem?_concat_cases hfound with hold | ⟨hlast, rfl⟩
  · exact .inl ⟨found, hold, hmem⟩
  · exact .inr ⟨hlast, hmem⟩

/-- After a command a class is one that was there, or it is in the one table that the command loads into or makes, and
its dispatch vector is none of those that were there. -/
theorem Effect.has_cases (h : s.Effect c next) : ∃ target, ∀ origin, next.Has origin →
    s.Has origin ∨ origin.table = target ∧ s.heap.vectors.size ≤ origin.loaded.vector.index := by
  cases h with
  | newTable =>
    refine ⟨s.tables.length, fun origin horigin => (has_of_addTable horigin).imp_right fun ⟨_, hmem⟩ => ?_⟩
    cases hmem
  | newBuiltinTable hbuilt =>
    refine ⟨s.tables.length, fun origin horigin => (has_of_addTable horigin).imp_right fun ⟨htable, hmem⟩ => ?_⟩
    exact ⟨htable, ClassTable.vectors_loadAll hbuilt hmem⟩
  | @load handle number definition table loaded _ htable hload =>
    obtain ⟨checked, -, hnew, rfl⟩ := ClassTable.load_eq_ok_iff.mp hload
    refine ⟨number, fun origin ⟨found, hfound, hmem⟩ => ?_⟩
    by_cases hsame : number = origin.table
    · rw [← hsame] at hfound
      cases (List.getElem?_set_self (List.getElem?_eq_some_iff.mp htable).1).symm.trans hfound
      rw [ClassTable.classes_insert hnew, List.mem_append, List.mem_singleton] at hmem
      rcases hmem with hold | hlast
      · exact .inl ⟨table, hsame ▸ htable, hold⟩
      · exact .inr ⟨hsame.symm, hlast ▸ Nat.le_refl _⟩
    · exact .inl ⟨found, (List.getElem?_set_ne hsame).symm.trans hfound, hmem⟩
  | _ => exact ⟨0, fun origin horigin => .inl horigin⟩

/-- Classes of different tables have different dispatch vectors. -/
theorem table_eq_of_vector_eq (horigin : (start.run requests).1.Has origin) (hother : (start.run requests).1.Has other)
    (hvector : origin.loaded.vector = other.loaded.vector) : origin.table = other.table := by
  have hall : ∀ p q, (start.run requests).1.Has p → (start.run requests).1.Has q →
      p.loaded.vector = q.loaded.vector → p.table = q.table := by
    apply reachable_induction (P := fun s => ∀ p q, s.Has p → s.Has q → p.loaded.vector = q.loaded.vector →
      p.table = q.table)
    · rintro p q ⟨table, htable, -⟩
      cases htable
    · -- An old dispatch vector is on the heap and a new one is not, so only two old or two new ones can be the same.
      intro earlier c next heffect ih p q hp hq hsame
      obtain ⟨target, hcases⟩ := heffect.has_cases
      have hlt : ∀ origin, (start.run earlier).1.Has origin →
          origin.loaded.vector.index < (start.run earlier).1.heap.vectors.size := by
        intro origin horigin
        obtain ⟨definition, hrealizes⟩ := (represented_run earlier).realizes horigin
        exact hrealizes.vector_lt
      rcases hcases p hp with hpold | ⟨hptable, hpnew⟩
      · rcases hcases q hq with hqold | ⟨-, hqnew⟩
        · exact ih p q hpold hqold hsame
        · exact absurd (hsame ▸ hlt p hpold) (Nat.not_lt.mpr hqnew)
      · rcases hcases q hq with hqold | ⟨hqtable, -⟩
        · exact absurd (hsame ▸ hlt q hqold) (Nat.not_lt.mpr hpnew)
        · exact hptable.trans hqtable.symm
  exact hall origin other horigin hother hvector

/-- In its own table the dispatch vector of a class leads to that class. -/
theorem Represented.byVector? (h : s.Represented) {table : ClassTable} {number : Nat} {c : LoadedClass}
    (htable : s.tables[number]? = some table) (hc : c ∈ table.classes) : table.byVector? c.vector = some c := by
  obtain ⟨accepted, hrepresents⟩ := h number table htable
  exact (hrepresents.lookups (hrepresents.of_mem hc).1).2

/-- Classes with one dispatch vector are one class of one table. -/
theorem eq_of_vector_eq (horigin : (start.run requests).1.Has origin) (hother : (start.run requests).1.Has other)
    (hvector : origin.loaded.vector = other.loaded.vector) : origin = other := by
  have htable := table_eq_of_vector_eq horigin hother hvector
  obtain ⟨number, c⟩ := origin
  obtain ⟨_, d⟩ := other
  cases htable
  obtain ⟨table, hnumber, hc⟩ := horigin
  obtain ⟨_, hsame, hd⟩ := hother
  cases hnumber.symm.trans hsame
  have hrepresented := represented_run requests
  have hclass := (hrepresented.byVector? hnumber hc).symm.trans (hvector ▸ hrepresented.byVector? hnumber hd)
  exact congrArg (TableClass.mk number) (Option.some.inj hclass)

end ObjectModel.Session
