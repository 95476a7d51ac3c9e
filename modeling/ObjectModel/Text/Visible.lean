import ObjectModel.Text.GraphemeExtend
import ObjectModel.Text.Unprintable

/-!
# Characters with a form of their own

Which characters can be read where they stand. A combining character would join the one before it, and an
invisible one would be lost. The two halfwidth sound marks extend a grapheme but are letters of full standing, so
they do not combine. The four fillers are letters that hold the place of an absent Hangul letter and show
nothing.
-/

namespace ObjectModel.Text

/-- The halfwidth voiced and semi-voiced sound marks. -/
def halfwidthSoundMarks : CodeRange :=
  ⟨0xFF9E, 0xFF9F⟩

/-- The fillers of Hangul syllables, in their several widths. -/
def hangulFillers : List CodeRange :=
  [⟨0x115F, 0x1160⟩, ⟨0x3164, 0x3164⟩, ⟨0xFFA0, 0xFFA0⟩]

/-- Whether a character joins the one before it. -/
def isCombining (c : Char) : Bool :=
  isGraphemeExtend c && !halfwidthSoundMarks.contains c

/-- Whether a character shows nothing, or nothing that is sure to be seen. -/
def isInvisible (c : Char) : Bool :=
  isUnprintable c || inRanges hangulFillers c

/-- Whether a character can be read where it stands. -/
def hasOwnForm (c : Char) : Bool :=
  !(isCombining c || isInvisible c)

/-- Every printable ASCII character has a form of its own. -/
theorem hasOwnForm_of_printable {c : Char} (hlow : 0x20 ≤ c.toNat) (hhigh : c.toNat < 0x7F) :
    hasOwnForm c = true := by
  have houtside : ∀ {ranges : List CodeRange},
      (∀ range ∈ ranges, range.last < 0x20 ∨ 0x7F ≤ range.first) → inRanges ranges c = false := by
    intro ranges hranges
    rw [Bool.eq_false_iff]
    intro hin
    obtain ⟨range, hrange, hfirst, hlast⟩ := inRanges_iff.mp hin
    have := hranges range hrange
    omega
  have hextend : isGraphemeExtend c = false := houtside (by decide +kernel)
  have hunprintable : isUnprintable c = false := houtside (by decide +kernel)
  have hfiller : inRanges hangulFillers c = false := houtside (by decide)
  rw [hasOwnForm, isCombining, isInvisible, hextend, hunprintable, hfiller]
  rfl

end ObjectModel.Text
