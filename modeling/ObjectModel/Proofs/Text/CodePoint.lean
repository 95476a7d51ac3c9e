/-!
# Code points

Which numbers are characters: those up to U+10FFFF but for the surrogates.
-/

namespace ObjectModel.Text

/-- The code point of a character is no surrogate and not above U+10FFFF. -/
theorem toNat_valid (c : Char) : c.toNat < 0xD800 ∨ 0xE000 ≤ c.toNat ∧ c.toNat ≤ 0x10FFFF := by
  rcases c.valid with h | ⟨hlow, hhigh⟩
  · exact Or.inl h
  · change 0xDFFF < c.toNat at hlow
    change c.toNat < 0x110000 at hhigh
    omega

/-- A number that is a code point is the code point of its character. -/
theorem toNat_ofNat {n : Nat} (h : n < 0xD800 ∨ 0xE000 ≤ n ∧ n ≤ 0x10FFFF) : (Char.ofNat n).toNat = n := by
  have hvalid : n.isValidChar := by
    rcases h with h | ⟨hlow, hhigh⟩
    · exact Or.inl h
    · exact Or.inr ⟨by omega, by omega⟩
  rw [Char.ofNat, dif_pos hvalid]
  rfl

end ObjectModel.Text
