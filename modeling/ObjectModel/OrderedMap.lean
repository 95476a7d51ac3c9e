/-!
# Maps in order of insertion

A map that keeps its entries in the order in which their keys were first inserted, so that an entry is found by
its key or by its position. Inserting under a key that is there puts the new value in the place of the old one;
any other key goes behind all entries.
-/

namespace ObjectModel

/-- Entries with different keys, in order of insertion. -/
structure OrderedMap (κ ν : Type) where
  entries : List (κ × ν)
  distinct : (entries.map Prod.fst).Nodup

namespace OrderedMap

variable {κ ν : Type}

/-- A map without entries. -/
def empty : OrderedMap κ ν :=
  ⟨[], List.nodup_nil⟩

/-- The number of entries. -/
def size (m : OrderedMap κ ν) : Nat :=
  m.entries.length

/-- The values, in order. -/
def values (m : OrderedMap κ ν) : List ν :=
  m.entries.map Prod.snd

/-- The value at a position. -/
def getAt? (m : OrderedMap κ ν) (i : Nat) : Option ν :=
  m.entries[i]?.map Prod.snd

variable [DecidableEq κ]

/-- The value of a key. -/
def get? (m : OrderedMap κ ν) (key : κ) : Option ν :=
  (m.entries.find? (·.1 = key)).map Prod.snd

/-- Puts a value in the place of the one that an entry has if the entry is that of the key. -/
def putFor (key : κ) (value : ν) (entry : κ × ν) : κ × ν :=
  if entry.1 = key then (key, value) else entry

/-- The keys stay as they are. -/
theorem fst_putFor (key : κ) (value : ν) (entry : κ × ν) : (putFor key value entry).1 = entry.1 := by
  unfold putFor
  split
  · next h => exact h.symm
  · rfl

/-- Sets the value of a key. -/
def insert (m : OrderedMap κ ν) (key : κ) (value : ν) : OrderedMap κ ν :=
  if h : key ∈ m.entries.map Prod.fst then
    ⟨m.entries.map (putFor key value), by
      have hkeys : Prod.fst ∘ putFor key value = Prod.fst := funext (fst_putFor key value)
      rw [List.map_map, hkeys]
      exact m.distinct⟩
  else
    ⟨m.entries ++ [(key, value)], by
      rw [List.map_append]
      refine List.nodup_append.mpr ⟨m.distinct, by simp, fun other hother _ hnew heq => ?_⟩
      rw [heq, List.mem_singleton.mp hnew] at hother
      exact h hother⟩

/-- A new key goes behind all entries. -/
theorem entries_insert_of_notMem {m : OrderedMap κ ν} {key : κ} (h : key ∉ m.entries.map Prod.fst) (value : ν) :
    (m.insert key value).entries = m.entries ++ [(key, value)] := by
  rw [insert, dif_neg h]

/-- A key without a value is the key of no entry. -/
theorem get?_eq_none_iff {m : OrderedMap κ ν} {key : κ} : m.get? key = none ↔ key ∉ m.entries.map Prod.fst := by
  rw [get?, Option.map_eq_none_iff, List.find?_eq_none]
  simp only [decide_eq_true_eq, List.mem_map, not_exists, not_and]

/-- The value of a key is that of its only entry. -/
theorem get?_eq_some_iff {m : OrderedMap κ ν} {key : κ} {value : ν} :
    m.get? key = some value ↔ (key, value) ∈ m.entries := by
  obtain ⟨entries, hdistinct⟩ := m
  unfold get?
  induction entries with
  | nil => simp
  | cons entry rest ih =>
    obtain ⟨hfirst, hrest⟩ := List.nodup_cons.mp hdistinct
    by_cases h : entry.1 = key
    · have hkey : (key, value) ∉ rest := fun hmem => hfirst (h ▸ List.mem_map_of_mem hmem)
      simp only [List.find?_cons, h, decide_true, Option.map_some, Option.some.injEq, List.mem_cons, hkey, or_false]
      exact ⟨fun hvalue => Prod.ext h.symm hvalue.symm, fun heq => congrArg Prod.snd heq.symm⟩
    · have hne : (key, value) ≠ entry := fun heq => h (congrArg Prod.fst heq.symm)
      simp only [List.find?_cons, h, decide_false, List.mem_cons, hne, false_or]
      exact ih hrest

end OrderedMap

end ObjectModel
