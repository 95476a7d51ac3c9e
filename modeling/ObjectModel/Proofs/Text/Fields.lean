import Mathlib.Data.List.Forall2
import Mathlib.Data.List.TakeWhile
import ObjectModel.Text.Blank
import ObjectModel.Text.Split

/-!
# Fields of a text

The parts of a text between separators are those that any list is split into, and none of them has a separator in it.
Trimming takes away all white space at both ends and nothing else.
-/

namespace ObjectModel.Text

/-- One text is what another has between the white space at its two ends. -/
structure Trims (cs inner : List Char) : Prop where
  around : ∃ front back, cs = front ++ inner ++ back ∧ (∀ c ∈ front, isBlank c = true) ∧ ∀ c ∈ back, isBlank c = true
  first : ∀ c, inner.head? = some c → isBlank c = false
  last : ∀ c, inner.getLast? = some c → isBlank c = false

variable {cs inner : List Char}

/-- The parts of a text are those of the list of its characters. -/
theorem splitAt_eq_splitOn (separator : Char) (cs : List Char) : splitAt separator cs = cs.splitOn separator := by
  induction cs with
  | nil => rfl
  | cons c rest ih =>
    rw [List.splitOn_cons_eq_if_modifyHead, ← ih]
    by_cases h : c = separator
    · rw [h, splitAt_cons_self, if_pos (beq_self_eq_true separator)]
    · rw [splitAt_cons_of_ne h, if_neg (by simpa using h)]
      obtain ⟨part, parts, hparts⟩ := List.exists_cons_of_ne_nil (splitAt_ne_nil separator rest)
      rw [hparts]
      rfl

/-- No part of a list has the separator in it. -/
theorem notMem_of_mem_splitOn {α : Type} [BEq α] [LawfulBEq α] {separator : α} {xs part : List α}
    (h : part ∈ xs.splitOn separator) : separator ∉ part := by
  induction xs generalizing part with
  | nil =>
    rw [List.splitOn_nil, List.mem_singleton] at h
    exact h ▸ List.not_mem_nil
  | cons x rest ih =>
    rw [List.splitOn_cons_eq_if_modifyHead] at h
    split at h
    · rcases List.mem_cons.mp h with rfl | hrest
      · exact List.not_mem_nil
      · exact ih hrest
    · next hne =>
      obtain ⟨first, others, hparts⟩ := List.exists_cons_of_ne_nil (List.splitOn_ne_nil separator rest)
      rw [hparts, List.modifyHead_cons] at h
      rcases List.mem_cons.mp h with rfl | hothers
      · rw [List.mem_cons, not_or]
        exact ⟨fun heq => hne (beq_iff_eq.mpr heq.symm), ih (hparts ▸ List.mem_cons_self)⟩
      · exact ih (hparts ▸ List.mem_cons_of_mem _ hothers)

/-- White space in front is dropped up to the first other character. -/
theorem dropWhile_isBlank_eq (h : ∀ c, inner.head? = some c → isBlank c = false) : inner.dropWhile isBlank = inner := by
  cases inner with
  | nil => rfl
  | cons c rest => exact List.dropWhile_cons_of_neg (by simp [h c rfl])

/-- Dropping white space leaves another character in front, if it leaves one. -/
theorem isBlank_of_head?_dropWhile {c : Char} (h : (cs.dropWhile isBlank).head? = some c) : isBlank c = false := by
  have hnot := List.head?_dropWhile_not isBlank cs
  rw [h] at hnot
  exact hnot

/-- Trimming leaves what a text has between the white space at its ends. -/
theorem trims_trim (cs : List Char) : Trims cs (trim cs) := by
  obtain ⟨back, hrest, hback⟩ :
      ∃ back, cs.dropWhile isBlank = trim cs ++ back ∧ ∀ c ∈ back, isBlank c = true := by
    refine ⟨((cs.dropWhile isBlank).reverse.takeWhile isBlank).reverse, ?_, fun c hc => ?_⟩
    · rw [trim, ← List.reverse_append, List.takeWhile_append_dropWhile, List.reverse_reverse]
    · exact List.mem_takeWhile_imp (List.mem_reverse.mp hc)
  refine ⟨⟨cs.takeWhile isBlank, back, ?_, fun c => List.mem_takeWhile_imp, hback⟩, fun c hc => ?_, fun c hc => ?_⟩
  · rw [List.append_assoc, ← hrest, List.takeWhile_append_dropWhile]
  · have hfirst : (cs.dropWhile isBlank).head? = some c := by
      rw [hrest, List.head?_append, hc, Option.some_or]
    exact isBlank_of_head?_dropWhile hfirst
  · rw [trim, List.getLast?_reverse] at hc
    exact isBlank_of_head?_dropWhile hc

/-- Trimming leaves every character that is not white space. -/
theorem mem_trim {c : Char} (h : c ∈ cs) (hc : isBlank c = false) : c ∈ trim cs := by
  obtain ⟨front, back, heq, hfront, hback⟩ := (trims_trim cs).around
  rw [heq, List.mem_append, List.mem_append] at h
  rcases h with (hmem | hmem) | hmem
  · exact absurd (hfront c hmem) (by simp [hc])
  · exact hmem
  · exact absurd (hback c hmem) (by simp [hc])

/-- There is only one way to trim a text. -/
theorem Trims.eq_trim (h : Trims cs inner) : inner = trim cs := by
  obtain ⟨front, back, rfl, hfront, hback⟩ := h.around
  have hlast : inner.reverse.dropWhile isBlank = inner.reverse :=
    dropWhile_isBlank_eq fun c hc => h.last c (by rwa [List.head?_reverse] at hc)
  have hends : ((inner ++ back).reverse.dropWhile isBlank).reverse = inner := by
    rw [List.reverse_append, List.dropWhile_append_of_pos fun c hc => hback c (List.mem_reverse.mp hc), hlast,
      List.reverse_reverse]
  rw [List.append_assoc, trim, List.dropWhile_append_of_pos hfront]
  -- A text of nothing but white space has no first character that would end the white space in front.
  cases inner with
  | nil =>
    rw [List.nil_append, List.dropWhile_eq_nil_iff.mpr hback]
    rfl
  | cons c rest =>
    have hfirst : (c :: rest ++ back).dropWhile isBlank = c :: rest ++ back :=
      dropWhile_isBlank_eq fun d hd => h.first d hd
    rw [hfirst, hends]

/-- No character from the exclamation mark to the tilde is white space. -/
theorem isBlank_of_visible {c : Char} (hlow : 0x21 ≤ c.toNat) (hhigh : c.toNat ≤ 0x7E) : isBlank c = false := by
  apply Bool.eq_false_iff.mpr
  intro hblank
  obtain ⟨range, hrange, hfirst, hlast⟩ := inRanges_iff.mp hblank
  simp only [whiteSpace, List.mem_cons, List.not_mem_nil, or_false] at hrange
  rcases hrange with rfl | rfl | rfl | rfl | rfl | rfl | rfl | rfl | rfl | rfl <;> simp only at hfirst hlast <;> omega

/-- Trimming takes away the white space around a text that has none. -/
theorem trim_around {front back : List Char} (hfront : ∀ c ∈ front, isBlank c = true)
    (hinner : ∀ c ∈ inner, isBlank c = false) (hback : ∀ c ∈ back, isBlank c = true) :
    trim (front ++ inner ++ back) = inner := by
  have htrims : Trims (front ++ inner ++ back) inner :=
    ⟨⟨front, back, rfl, hfront, hback⟩, fun c hc => hinner c (List.mem_of_head? hc),
      fun c hc => hinner c (List.mem_of_getLast? hc)⟩
  exact htrims.eq_trim.symm

/-- The texts that a list of texts is trimmed to are those of its entries. -/
theorem forall₂_trims_iff {parts trimmed : List (List Char)} :
    List.Forall₂ Trims parts trimmed ↔ parts.map trim = trimmed := by
  have htrims : ∀ {cs inner}, Trims cs inner ↔ trim cs = inner :=
    fun {cs _} => ⟨fun h => h.eq_trim.symm, fun h => h ▸ trims_trim cs⟩
  calc List.Forall₂ Trims parts trimmed
      ↔ List.Forall₂ (fun cs inner => trim cs = inner) parts trimmed :=
        ⟨fun h => h.imp fun _ _ => htrims.mp, fun h => h.imp fun _ _ => htrims.mpr⟩
    _ ↔ parts.map trim = trimmed := by
        rw [← List.forall₂_map_left_iff (R := (· = ·)), List.forall₂_eq_eq_eq]

end ObjectModel.Text
