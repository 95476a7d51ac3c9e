/-!
# Splitting at a separator

A text with `n` separators has `n + 1` parts, some of which may be empty; the parts joined by the separator are
the text.
-/

namespace ObjectModel.Text

/-- Puts a character in front of the first part. -/
def consFirst (c : Char) : List (List Char) → List (List Char)
  | [] => [[c]]
  | part :: parts => (c :: part) :: parts

/-- The parts of a text between separators. -/
def splitAt (separator : Char) (cs : List Char) : List (List Char) :=
  cs.foldr (fun c parts => if c = separator then [] :: parts else consFirst c parts) [[]]

/-- A text always has a first part. -/
theorem splitAt_ne_nil (separator : Char) (cs : List Char) : splitAt separator cs ≠ [] := by
  cases cs with
  | nil => exact List.cons_ne_nil _ _
  | cons c rest =>
    rw [splitAt, List.foldr_cons]
    split
    · exact List.cons_ne_nil _ _
    · unfold consFirst
      split <;> exact List.cons_ne_nil _ _

/-- The empty text has one empty part. -/
@[simp] theorem splitAt_nil (separator : Char) : splitAt separator [] = [[]] := rfl

/-- A separator in front begins with an empty part. -/
theorem splitAt_cons_self (separator : Char) (cs : List Char) :
    splitAt separator (separator :: cs) = [] :: splitAt separator cs := by
  simp [splitAt]

/-- Any other character in front belongs to the first part. -/
theorem splitAt_cons_of_ne {separator c : Char} (h : c ≠ separator) (cs : List Char) :
    splitAt separator (c :: cs) = consFirst c (splitAt separator cs) := by
  simp [splitAt, h]

/-- The parts of a text, joined by the separator, are the text. -/
theorem intercalate_splitAt (separator : Char) (cs : List Char) :
    [separator].intercalate (splitAt separator cs) = cs := by
  induction cs with
  | nil => rfl
  | cons c rest ih =>
    obtain ⟨part, parts, hparts⟩ := List.exists_cons_of_ne_nil (splitAt_ne_nil separator rest)
    rw [hparts] at ih
    by_cases h : c = separator
    · subst h
      rw [splitAt_cons_self, hparts, List.intercalate_cons_cons, ih]
      rfl
    · rw [splitAt_cons_of_ne h, hparts, consFirst]
      cases parts with
      | nil => simpa using ih
      | cons next others => simpa [List.intercalate_cons_cons] using ih

end ObjectModel.Text
