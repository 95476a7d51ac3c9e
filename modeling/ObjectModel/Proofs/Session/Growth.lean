import ObjectModel.Proofs.Session.History

/-!
# Commands only add

Whatever a command does, the heap only grows. All commands but a load leave every table as it is; a load inserts into
the one table that its handle stands for. So over a run a table keeps its classes in their places, and a class that
something was created for stays in its table.
-/

namespace ObjectModel

/-- The heap of the one session has grown into that of the other, which has the tables of the one as they are. -/
structure Session.Extends (s next : Session) : Prop where
  heap : s.heap.Grows next.heap
  tables : ∀ number < s.tables.length, next.tables[number]? = s.tables[number]?

/-- The heap has grown, and the classes of every table are still there, ahead of those that were loaded since. -/
structure Session.Grows (s later : Session) : Prop where
  heap : s.heap.Grows later.heap
  tables : ∀ (number : Nat) table, s.tables[number]? = some table →
    ∃ grown, later.tables[number]? = some grown ∧ table.classes <+: grown.classes

namespace Session

variable {s next later : Session} {c : Command} {a : Answer}

section Extends

/-- A session with the same tables and a heap that has grown. -/
theorem Extends.of_grows (hheap : s.heap.Grows next.heap) (htables : next.tables = s.tables) : s.Extends next :=
  ⟨hheap, fun _ _ => by rw [htables]⟩

/-- A session with one more table. -/
theorem Extends.addTable {heap : Heap} (hheap : s.heap.Grows heap) (table : ClassTable) :
    s.Extends (s.addTable heap table) :=
  ⟨hheap, fun _ hnumber => List.getElem?_append_left hnumber⟩

/-- No command changes anything that is on the heap. -/
theorem Effect.grows_heap (h : s.Effect c next) : s.heap.Grows next.heap := by
  cases h with
  | newBuiltinTable hbuilt => exact ClassTable.grows_loadAll hbuilt
  | load _ _ hload => exact ClassTable.grows_load hload
  | linkClass interfaces payload => exact s.heap.grows_link _ _
  | makeNodes => exact s.heap.grows_addNodes _
  | makeVector => exact s.heap.grows_addVector _
  | makeArray => exact s.heap.grows_addArray _
  | create _ hcreated => exact hcreated.grows
  | _ => exact .refl s.heap

/-- The effect of a command is a load into a table, or it extends the session. -/
theorem Effect.load_or_extends (h : s.Effect c next) :
    (∃ handle number definition table loaded, c = .load handle definition ∧ s.tableOf? handle = some number ∧
        s.tables[number]? = some table ∧ (table.load s.config.walkBound s.heap definition).value = .ok loaded ∧
        next = s.setTable number loaded.heap loaded.table) ∨ s.Extends next := by
  have hgrows := h.grows_heap
  cases h with
  | load hnumber htable hload => exact .inl ⟨_, _, _, _, _, rfl, hnumber, htable, hload, rfl⟩
  | newTable => exact .inr (.addTable hgrows _)
  | newBuiltinTable => exact .inr (.addTable hgrows _)
  | _ => exact .inr (.of_grows hgrows rfl)

/-- Every command but a load extends the session. -/
theorem extends_attempt (hc : ∀ handle definition, c ≠ .load handle definition)
    (h : (s.attempt c).result = .ok (next, a)) : s.Extends next := by
  rcases (effect_of_attempt h).load_or_extends with ⟨handle, _, definition, _, _, hload, -⟩ | hextends
  · exact absurd hload (hc handle definition)
  · exact hextends

end Extends

section Grows

/-- A session that stays the same has grown. -/
theorem Grows.refl (s : Session) : s.Grows s :=
  ⟨.refl s.heap, fun _ table htable => ⟨table, htable, List.prefix_rfl⟩⟩

/-- Growing twice is growing. -/
theorem Grows.trans (first : s.Grows next) (second : next.Grows later) : s.Grows later where
  heap := first.heap.trans second.heap
  tables number table htable := by
    obtain ⟨middle, hmiddle, hahead⟩ := first.tables number table htable
    obtain ⟨grown, hgrown, hothers⟩ := second.tables number middle hmiddle
    exact ⟨grown, hgrown, hahead.trans hothers⟩

/-- Every command makes the session grow. -/
theorem Effect.grows (h : s.Effect c next) : s.Grows next where
  heap := h.grows_heap
  tables number table htable := by
    have hlt := (List.getElem?_eq_some_iff.mp htable).1
    rcases h.load_or_extends with ⟨handle, target, definition, old, loaded, -, -, hold, hload, rfl⟩ | hextends
    · by_cases hsame : target = number
      · cases hsame
        cases htable.symm.trans hold
        obtain ⟨checked, -, hnew, rfl⟩ := ClassTable.load_eq_ok_iff.mp hload
        exact ⟨_, List.getElem?_set_self hlt, ClassTable.classes_insert hnew ▸ List.prefix_append _ _⟩
      · exact ⟨table, (List.getElem?_set_ne hsame).trans htable, List.prefix_rfl⟩
    · exact ⟨table, (hextends.tables number hlt).trans htable, List.prefix_rfl⟩

/-- Every run makes the session grow. -/
theorem grows_run (s : Session) (requests : List Request) : s.Grows (s.run requests).1 :=
  run_induction (fun _ _ _ heffect h => h.trans heffect.grows) (.refl s) requests

/-- A class stays in its table. -/
theorem Has.mono {origin : TableClass} (h : s.Has origin) (hgrows : s.Grows later) : later.Has origin := by
  obtain ⟨table, htable, hmem⟩ := h
  obtain ⟨grown, hgrown, hahead⟩ := hgrows.tables _ table htable
  exact ⟨grown, hgrown, hahead.subset hmem⟩

/-- The classes that something was created for stay in their tables. -/
theorem Knows.mono {creation : Creation} (h : s.Knows creation) (hgrows : s.Grows later) : later.Knows creation :=
  ⟨h.1.mono hgrows, fun characters hcharacters => (h.2 characters hcharacters).mono hgrows⟩

end Grows

end Session

end ObjectModel
