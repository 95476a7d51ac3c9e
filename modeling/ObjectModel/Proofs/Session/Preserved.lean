import ObjectModel.Proofs.Class.Stays
import ObjectModel.Proofs.Session.Anchored
import ObjectModel.Proofs.Session.Creations
import ObjectModel.Proofs.Session.Loads

/-!
# What was handed out stays

Nothing that a client holds after some requests is changed by further ones: not the classes of a table and what its
lookups find, not what is read through a dispatch vector, not an array header, and not an instance until it is given up.
-/

namespace ObjectModel

/-- The header, the array and the text of an instance are the same on both heaps. -/
structure Instance.Stays (before after : Heap) (value : Instance) : Prop where
  header : value.header after = value.header before
  array : ∀ id, value.array? = some id → after.array id = before.array id
  text : value.text? after = value.text? before

/-- An instance stays what it is when the heap grows. -/
theorem Instance.MadeFor.stays {before after : Heap} {c : LoadedClass} {charsClass : Option LoadedClass}
    {value : Instance} (h : value.MadeFor before c charsClass) (hgrows : before.Grows after) :
    value.Stays before after := by
  have harray : ∀ id, value.array? = some id → after.array id = before.array id := by
    intro id hid
    obtain ⟨header, hheader⟩ := h.exists_array hid
    exact hgrows.array_eq (Array.getElem?_eq_some_iff.mp hheader).1
  refine ⟨(h.mono hgrows).header_eq.trans h.header_eq.symm, harray, ?_⟩
  cases h with
  | object => rfl
  | array => rfl
  | @string charsClass e values id _ _ _ =>
    change (after.array id).decode? e = (before.array id).decode? e
    rw [harray id rfl]

namespace Session

/-- What a client holds in a session is the same after further requests. -/
structure Preserves (s : Session) (requests : List Request) : Prop where
  tables : ∀ (number : Nat) table, s.tables[number]? = some table →
    ∃ grown, (s.run requests).1.tables[number]? = some grown ∧ table.Keeps grown
  classes : ∀ table ∈ s.tables, ∀ c ∈ table.classes, c.Stays s.heap (s.run requests).1.heap
  vectors : ∀ operand v, s.vector operand = .ok (some v) → v.Stays s.heap (s.run requests).1.heap
  arrays : ∀ operand id, s.array operand = .ok (some id) → (s.run requests).1.heap.array id = s.heap.array id
  instances : ∀ i value, s.instance? i = some value →
    value.Stays s.heap (s.run requests).1.heap ∧ value.ofClass.Stays s.heap (s.run requests).1.heap ∧
      ((s.run requests).1.instance? i = some value ∨
        (s.run requests).1.instance? i = none ∧ .command (.dropInstance i) ∈ requests)

variable {s : Session} {requests : List Request}

/-- An instance keeps its number until a request gives it up. -/
theorem instance?_run {i : Nat} {value : Instance} (h : s.instance? i = some value) (requests : List Request) :
    (s.run requests).1.instance? i = some value ∨
      (s.run requests).1.instance? i = none ∧ .command (.dropInstance i) ∈ requests := by
  have hlt : i < s.instances.length := by
    apply Nat.lt_of_not_le
    intro hle
    cases (instance?_eq_none hle).symm.trans h
  -- A place that was given up must not be filled again: new instances come behind all places there are.
  have hrun := kept_until (.dropInstance i)
    (P := fun later => i < later.instances.length ∧ later.instance? i = some value)
    (Q := fun later => i < later.instances.length ∧ later.instance? i = none) ?_ ?_ ⟨hlt, h⟩ requests
  · exact hrun.imp And.right fun ⟨⟨_, hnone⟩, hmem⟩ => ⟨hnone, hmem⟩
  · intro found c next heffect ⟨hplace, hlive⟩
    have hnext := hplace.trans_le heffect.length_instances_le
    rcases heffect.instance?_eq hplace with hsame | ⟨hdropped, hnone⟩
    · exact .inl ⟨hnext, hsame.trans hlive⟩
    · exact .inr ⟨hdropped, hnext, hnone⟩
  · intro found c next heffect ⟨hplace, hnone⟩
    exact ⟨hplace.trans_le heffect.length_instances_le,
      (heffect.instance?_eq hplace).elim (fun hsame => hsame.trans hnone) And.right⟩

/-- A dispatch vector that an operand names is on the heap. -/
theorem Anchored.vector_lt (h : s.Anchored) (hrepresented : s.Represented) {operand : VectorOperand} {v : VectorId}
    (hv : s.vector operand = .ok (some v)) : v.index < s.heap.vectors.size := by
  cases operand with
  | null => cases hv
  | handmade i =>
    obtain ⟨_, hplace, hsome⟩ := Option.map_eq_some_iff.mp (orRefuse_eq_ok_iff.mp hv)
    cases hsome
    exact h.vectors v (List.mem_of_getElem? hplace)
  | standalone i =>
    obtain ⟨c, hplace, hsome⟩ := Option.map_eq_some_iff.mp (orRefuse_eq_ok_iff.mp hv)
    cases hsome
    exact h.standalone c (List.mem_of_getElem? hplace)
  | ofClass operand =>
    obtain ⟨c, hc, hsome⟩ := map_eq_ok_iff.mp hv
    cases hsome
    obtain ⟨number, horigin⟩ := classOf_eq_ok_iff.mp hc
    obtain ⟨definition, hrealizes⟩ := hrepresented.realizes (has_of_origin? horigin)
    exact hrealizes.vector_lt

/-- The array of an instance is on the heap. -/
theorem Tracks.array_lt {created : List Creation} (h : s.Tracks created) {i : Nat} {value : Instance} {id : ArrayId}
    (hi : s.instance? i = some value) (hid : value.array? = some id) : id.index < s.heap.arrays.size := by
  obtain ⟨creation, -, -, hmade⟩ := h.live i value hi
  obtain ⟨header, hheader⟩ := hmade.exists_array hid
  exact (Array.getElem?_eq_some_iff.mp hheader).1

/-- An array that an operand names is on the heap. -/
theorem Anchored.array_lt (h : s.Anchored) {created : List Creation} (htracks : s.Tracks created)
    {operand : ArrayOperand} {id : ArrayId} (hid : s.array operand = .ok (some id)) :
    id.index < s.heap.arrays.size := by
  cases operand with
  | null => cases hid
  | ofInstance i =>
    obtain ⟨_, hi, hsome⟩ := map_eq_ok_iff.mp hid
    cases hsome
    rw [arrayInstance] at hi
    split at hi
    · next hlive =>
      cases hi
      exact htracks.array_lt hlive rfl
    · cases hi
  | charactersOf i =>
    obtain ⟨_, hi, hsome⟩ := map_eq_ok_iff.mp hid
    cases hsome
    rw [stringInstance] at hi
    split at hi
    · next hlive =>
      cases hi
      exact htracks.array_lt hlive rfl
    · cases hi
  | handmade i =>
    obtain ⟨_, hplace, hsome⟩ := Option.map_eq_some_iff.mp (orRefuse_eq_ok_iff.mp hid)
    cases hsome
    exact h.arrays id (List.mem_of_getElem? hplace)

/-- Nothing that was handed out in the first part of a run changes in the rest of it. -/
theorem preserves_run (first rest : List Request) : (start.run first).1.Preserves rest := by
  have hgrows := grows_run (start.run first).1 rest
  have hanchored := anchored_run first
  have hrepresented := represented_run first
  have htracks := tracks_run first
  have hlater : ((start.run first).1.run rest).1.Represented := by
    have happend := represented_run (first ++ rest)
    rwa [run_append] at happend
  have hclass : ∀ origin, (start.run first).1.Has origin →
      origin.loaded.Stays (start.run first).1.heap ((start.run first).1.run rest).1.heap := by
    intro origin hhas
    obtain ⟨definition, hrealizes⟩ := hrepresented.realizes hhas
    exact hrealizes.stays hanchored.closed hgrows.heap
  refine ⟨fun number table htable => ?_, fun table htable c hc => ?_, fun operand v hv => ?_, fun operand id hid => ?_,
    fun i value hi => ?_⟩
  · obtain ⟨grown, hgrown, hahead⟩ := hgrows.tables number table htable
    obtain ⟨accepted, hrepresents⟩ := hrepresented number table htable
    obtain ⟨others, hothers⟩ := hlater number grown hgrown
    exact ⟨grown, hgrown, hrepresents.keeps hothers hahead⟩
  · obtain ⟨number, hnumber⟩ := List.mem_iff_getElem?.mp htable
    exact hclass ⟨number, c⟩ ⟨table, hnumber, hc⟩
  · exact hanchored.closed.stays hgrows.heap (hanchored.vector_lt hrepresented hv)
  · exact hgrows.heap.array_eq (hanchored.array_lt htracks hid)
  · obtain ⟨creation, -, hknows, hmade⟩ := htracks.live i value hi
    exact ⟨hmade.stays hgrows.heap, hmade.ofClass_eq ▸ hclass creation.ofClass hknows.1, instance?_run hi rest⟩

end Session

end ObjectModel
