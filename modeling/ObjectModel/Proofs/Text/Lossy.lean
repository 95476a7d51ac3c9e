import ObjectModel.Proofs.Text.Fields
import ObjectModel.Proofs.Text.Utf8

/-!
# Reading bytes leniently

A byte below 0x80 is a character by itself and belongs to no other piece, so bytes can be cut at any of them before or
after they are read. Well-formed bytes are read as their text; all others leave U+FFFD in what is read.
-/

namespace ObjectModel.Utf8

/-- Well-formed bytes can be told by reading them. -/
instance decidableWellFormed : DecidablePred WellFormed := fun bytes =>
  match h : decode bytes with
  | .ok cs => .isTrue (wellFormed_iff.mpr ⟨cs, decode_eq_ok_iff.mp h⟩)
  | .error _ => .isFalse fun hwell => by
      obtain ⟨cs, hcs⟩ := wellFormed_iff.mp hwell
      cases h.symm.trans (decode_eq_ok_iff.mpr hcs)

variable {a b : UInt8} {bits : Nat} {ranges : List ByteRange} {bytes rest others : List UInt8}

/-- No byte that follows a lead byte is below 0x80. -/
theorem le_low_of_lead? (h : lead? a = some (bits, ranges)) : ∀ range ∈ ranges, 0x80 ≤ range.low := by
  have hcont : 0x80 ≤ continuation.low := Nat.le_refl _
  unfold lead? at h
  dsimp only at h
  split at h
  · obtain ⟨-, rfl⟩ := Prod.mk.inj (Option.some.inj h)
    simp
  · split at h
    · cases h
    · split at h
      · obtain ⟨-, rfl⟩ := Prod.mk.inj (Option.some.inj h)
        simp [hcont]
      · split at h
        · obtain ⟨-, rfl⟩ := Prod.mk.inj (Option.some.inj h)
          simp only [List.forall_mem_cons, hcont, true_and]
          exact ⟨by split <;> omega, by simp⟩
        · split at h
          · obtain ⟨-, rfl⟩ := Prod.mk.inj (Option.some.inj h)
            simp only [List.forall_mem_cons, hcont, true_and]
            exact ⟨by split <;> omega, by simp⟩
          · cases h

/-- A byte outside the ranges ends what follows a lead byte, as the end of the bytes does. -/
theorem follow_append_cons (hout : ∀ range ∈ ranges, range.contains b = false) (bits : Nat) (rest others : List UInt8) :
    follow bits ranges (rest ++ b :: others) = follow bits ranges rest := by
  induction ranges generalizing bits rest with
  | nil => rfl
  | cons range ranges ih =>
    cases rest with
    | nil => simp [follow, hout range List.mem_cons_self]
    | cons c rest =>
      rw [List.cons_append, follow, follow]
      rw [ih (fun other hmem => hout other (List.mem_cons_of_mem _ hmem))]

/-- No more bytes follow a lead byte than there are. -/
theorem follow_le (bits : Nat) (ranges : List ByteRange) (rest : List UInt8) :
    (follow bits ranges rest).2 ≤ rest.length := by
  induction ranges generalizing bits rest with
  | nil => exact Nat.zero_le _
  | cons range ranges ih =>
    cases rest with
    | nil => exact Nat.zero_le _
    | cons c rest =>
      rw [follow]
      split
      · exact Nat.succ_le_succ (ih _ rest)
      · exact Nat.zero_le _

/-- No more bytes belong to the first piece than there are. -/
theorem firstPiece_le (a : UInt8) (rest : List UInt8) : (firstPiece a rest).2 ≤ rest.length := by
  rw [firstPiece]
  cases lead? a with
  | none => exact Nat.zero_le _
  | some lead =>
    have hle := follow_le lead.1 lead.2 rest
    dsimp only
    split <;> next hfollow => simpa only [hfollow] using hle

/-- The first piece ends where a byte below 0x80 begins. -/
theorem firstPiece_append_cons (hascii : b.toNat < 0x80) (a : UInt8) (rest others : List UInt8) :
    firstPiece a (rest ++ b :: others) = firstPiece a rest := by
  rw [firstPiece, firstPiece]
  cases hlead : lead? a with
  | none => rfl
  | some lead =>
    have hout : ∀ range ∈ lead.2, range.contains b = false := by
      intro range hmem
      have hlow := le_low_of_lead? hlead range hmem
      simp only [ByteRange.contains, Bool.and_eq_false_iff, decide_eq_false_iff_not]
      omega
    have hle := follow_le lead.1 lead.2 rest
    dsimp only
    rw [follow_append_cons hout]
    generalize follow lead.1 lead.2 rest = found at hle ⊢
    obtain ⟨value, count⟩ := found
    cases value with
    | some value => rfl
    | none =>
      dsimp only
      rw [List.take_append_of_le_length hle]

/-- A byte below 0x80 is a piece by itself, and the bytes before it have the pieces that they have by themselves. -/
theorem pieces_append_cons (hascii : b.toNat < 0x80) (bytes others : List UInt8) :
    pieces (bytes ++ b :: others) = pieces bytes ++ .char (Char.ofNat b.toNat) :: pieces others := by
  induction hn : bytes.length using Nat.strongRecOn generalizing bytes with
  | _ n ih =>
    cases bytes with
    | nil =>
      rw [pieces_nil]
      exact (Spells.one hascii).pieces_append others
    | cons a rest =>
      have hle := firstPiece_le a rest
      have hlt : (rest.drop (firstPiece a rest).2).length < n := by
        subst hn; simp only [List.length_drop, List.length_cons]; omega
      rw [List.cons_append, pieces_cons, pieces_cons, firstPiece_append_cons hascii, List.drop_append_of_le_length hle,
        ih _ hlt _ rfl, List.cons_append]

/-- A character below 0x80 is read only from its own byte. -/
theorem mem_of_mem_pieces (hascii : b.toNat < 0x80) (h : .char (Char.ofNat b.toNat) ∈ pieces bytes) : b ∈ bytes := by
  induction hn : bytes.length using Nat.strongRecOn generalizing bytes with
  | _ n ih =>
    cases bytes with
    | nil => simp at h
    | cons a rest =>
      rw [pieces_cons, List.mem_cons] at h
      rcases h with hfirst | hothers
      · obtain ⟨tail, others, m, -, hspells, hchar, -⟩ := spells_of_firstPiece (Prod.ext hfirst.symm rfl)
        have hnumber : m = b.toNat := by
          have hsame := congrArg Char.toNat hchar
          rw [Text.toNat_ofNat hspells.valid, Text.toNat_ofNat (.inl (by omega))] at hsame
          exact hsame.symm
        cases hspells with
        | one => exact List.mem_cons.mpr (.inl (UInt8.toNat_inj.mp hnumber.symm))
        | two => omega
        | three => omega
        | four => omega
      · have hlt : (rest.drop (firstPiece a rest).2).length < n := by
          subst hn; simp only [List.length_drop, List.length_cons]; omega
        exact List.mem_cons_of_mem _ (List.mem_of_mem_drop (ih _ hlt hothers rfl))

/-- What is read from bytes can be cut at a character below 0x80 as the bytes can at its byte. -/
theorem decodeLossy_append_cons (hascii : b.toNat < 0x80) (bytes others : List UInt8) :
    decodeLossy (bytes ++ b :: others) = decodeLossy bytes ++ Char.ofNat b.toNat :: decodeLossy others := by
  rw [decodeLossy, pieces_append_cons hascii, List.map_append, List.map_cons]
  rfl

/-- Reading leaves no character below 0x80 that has no byte. -/
theorem mem_of_mem_decodeLossy (hascii : b.toNat < 0x80) (h : Char.ofNat b.toNat ∈ decodeLossy bytes) : b ∈ bytes := by
  obtain ⟨p, hp, hchar⟩ := List.mem_map.mp h
  cases p with
  | char c =>
    cases hchar
    exact mem_of_mem_pieces hascii hp
  | broken run =>
    have hnumber := congrArg Char.toNat hchar
    rw [Text.toNat_ofNat (.inl (by omega))] at hnumber
    change 0xFFFD = b.toNat at hnumber
    omega

/-- Splitting at a character below 0x80 after reading is splitting at its byte before. -/
theorem splitOn_decodeLossy (hascii : b.toNat < 0x80) (bytes : List UInt8) :
    (decodeLossy bytes).splitOn (Char.ofNat b.toNat) = (bytes.splitOn b).map decodeLossy := by
  have hjoin (parts : List (List UInt8)) (hparts : parts ≠ []) :
      decodeLossy ([b].intercalate parts) = [Char.ofNat b.toNat].intercalate (parts.map decodeLossy) := by
    induction parts with
    | nil => exact absurd rfl hparts
    | cons part rest ih =>
      cases rest with
      | nil => simp
      | cons next others =>
        rw [List.intercalate_cons_cons, List.append_assoc, List.singleton_append, decodeLossy_append_cons hascii,
          ih (List.cons_ne_nil _ _)]
        simp [List.intercalate_cons_cons]
  have hparts := List.splitOn_ne_nil b bytes
  have hfree : ∀ part ∈ (bytes.splitOn b).map decodeLossy, Char.ofNat b.toNat ∉ part := by
    intro part hmem
    obtain ⟨own, hown, rfl⟩ := List.mem_map.mp hmem
    exact fun hc => Text.notMem_of_mem_splitOn hown (mem_of_mem_decodeLossy hascii hc)
  calc (decodeLossy bytes).splitOn (Char.ofNat b.toNat)
      = (decodeLossy ([b].intercalate (bytes.splitOn b))).splitOn (Char.ofNat b.toNat) := by
        rw [List.intercalate_splitOn]
    _ = ([Char.ofNat b.toNat].intercalate ((bytes.splitOn b).map decodeLossy)).splitOn (Char.ofNat b.toNat) := by
        rw [hjoin _ hparts]
    _ = (bytes.splitOn b).map decodeLossy :=
        List.splitOn_intercalate _ hfree (by simp)

/-- A text that is written as bytes is read from them. -/
theorem decodeLossy_encode (cs : List Char) : decodeLossy (encode cs) = cs := by
  rw [decodeLossy, pieces_encode, List.map_map]
  exact List.map_id cs

/-- Even leniently, the bytes of a string are read as that string. -/
theorem ofList_decodeLossy_bytesOf (s : String) : String.ofList (decodeLossy (bytesOf s)) = s := by
  rw [bytesOf, decodeLossy_encode, String.ofList_toList]

/-- What is read from well-formed bytes is written as these bytes. -/
theorem encode_decodeLossy (h : WellFormed bytes) : encode (decodeLossy bytes) = bytes := by
  obtain ⟨cs, rfl⟩ := wellFormed_iff.mp h
  rw [decodeLossy_encode]

/-- Texts with a character between them are written as their bytes with those of the character between them. -/
theorem encode_intercalate (c : Char) (parts : List (List Char)) :
    encode ([c].intercalate parts) = (encodeChar c).intercalate (parts.map encode) := by
  induction parts with
  | nil => rfl
  | cons part rest ih =>
    cases rest with
    | nil => simp
    | cons next others =>
      rw [List.intercalate_cons_cons, List.map_cons, List.map_cons, List.intercalate_cons_cons, ← List.map_cons, ← ih]
      simp [encode]

/-- Reading leaves U+FFFD for bytes that are not well-formed. -/
theorem replacement_mem_decodeLossy (h : ¬WellFormed bytes) : '\uFFFD' ∈ decodeLossy bytes := by
  obtain ⟨p, hp, hbroken⟩ : ∃ p ∈ pieces bytes, p.char? = none := by
    apply Classical.byContradiction
    intro hall
    apply h
    refine wellFormed_iff.mpr ⟨decodeLossy bytes, encode_eq_of_pieces ?_⟩
    rw [decodeLossy, List.map_map]
    refine (List.map_id' _).symm.trans (List.map_congr_left fun p hp => ?_)
    cases p with
    | char c => rfl
    | broken run => exact absurd ⟨_, hp, rfl⟩ hall
  exact List.mem_map.mpr ⟨p, hp, by rw [hbroken]; rfl⟩

end ObjectModel.Utf8
