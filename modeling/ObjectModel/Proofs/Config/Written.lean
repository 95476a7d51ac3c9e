import ObjectModel.Proofs.Config.Environment

/-!
# Configurations in writing

A configuration is written as two options, the name of its encoding and its bound in decimal, and comes back when the
text is read. So it does in any other spelling: with letters of either case, zeros and a plus sign in front of the
number, the two options in either order, white space around them, empty options between them, and other options ahead.
-/

namespace ObjectModel

namespace Setting

/-- The option gives a bound by its decimal digits, perhaps with a plus sign and with zeros in front. -/
def SpellsBound (option : List Char) (n : Nat) : Prop :=
  ∃ sign zeros, option = boundKey ++ (sign ++ (List.replicate zeros '0' ++ (Text.describeNat n).toList)) ∧
    (sign = [] ∨ sign = ['+'])

end Setting

namespace Config

open Setting

/-- The options that a configuration is written as. -/
def toOptions (config : Config) : List (List Char) :=
  [config.encoding.name.toList, boundKey ++ (Text.describeNat config.walkBound).toList]

/-- The options spell a configuration: one names its encoding and the other gives its bound, in either order. -/
def SpelledBy (config : Config) (options : List (List Char)) : Prop :=
  ∃ encoding bound, Names encoding config.encoding ∧ SpellsBound bound config.walkBound ∧
    (options = [encoding, bound] ∨ options = [bound, encoding])

/-- The options in order, each with white space around it, and among them any number of parts with nothing but white
space. -/
inductive Spaced : List (List Char) → List (List Char) → Prop
  | nil : Spaced [] []
  | empty {options parts : List (List Char)} {part : List Char} (hpart : ∀ c ∈ part, Text.isBlank c = true)
      (rest : Spaced options parts) : Spaced options (part :: parts)
  | option {options parts : List (List Char)} {front option back : List Char}
      (hfront : ∀ c ∈ front, Text.isBlank c = true) (hback : ∀ c ∈ back, Text.isBlank c = true)
      (rest : Spaced options parts) : Spaced (option :: options) ((front ++ option ++ back) :: parts)

/-- A configuration comes back from each text that says it, without a warning. Options ahead of it change nothing but
the warnings, which are their own. -/
structure SurvivesWriting (config : Config) : Prop where
  written : ∀ options, options = config.toOptions ∨ options = config.toOptions.reverse →
    ofOptions ([','].intercalate options) = ⟨config, []⟩
  spelled : ∀ options parts, config.SpelledBy options → Spaced options parts →
    ofOptions ([','].intercalate parts) = ⟨config, []⟩
  behind : ∀ before options parts, config.SpelledBy options → Spaced options parts →
    ofOptions (before ++ ',' :: [','].intercalate parts) = ⟨config, (ofOptions before).events⟩

end Config

/-- Characters without white space and without a comma, at least one. -/
structure Text.Solid (cs : List Char) : Prop where
  nonempty : cs ≠ []
  visible : ∀ c ∈ cs, isBlank c = false
  noComma : ',' ∉ cs

namespace Setting

variable {option : List Char} {e : Encoding} {n : Nat}

/-- A text of characters from the hyphen to the tilde, plus signs among them, is solid. -/
theorem solid_of_toNat (hne : option ≠ []) (h : ∀ c ∈ option, c = '+' ∨ 0x2D ≤ c.toNat ∧ c.toNat ≤ 0x7E) :
    Text.Solid option where
  nonempty := hne
  visible c hc := by
    rcases h c hc with rfl | ⟨hlow, hhigh⟩
    · decide
    · exact Text.isBlank_of_visible (by omega) hhigh
  noComma hc := by
    rcases h ',' hc with heq | ⟨hlow, -⟩
    · exact absurd heq (by decide)
    · exact absurd hlow (by decide)

/-- The name of an encoding is solid, in letters of either case. -/
theorem Names.solid (h : Names option e) : Text.Solid option := by
  have hname : e.name.toList.all (fun d => decide ('0'.toNat ≤ d.toNat ∧ d.toNat ≤ 'z'.toNat)) = true := by
    cases e <;> decide
  apply solid_of_toNat
  · rintro rfl
    have hnil := names_iff.mp h
    cases e <;> exact absurd hnil (by decide)
  · intro c hc
    have hlower := of_decide_eq_true (List.all_eq_true.mp hname c.toLower (names_iff.mp h ▸ List.mem_map_of_mem hc))
    have hA : 'A'.toNat = 65 := rfl
    have h0 : '0'.toNat = 48 := rfl
    have hz : 'z'.toNat = 122 := rfl
    rw [toNat_toLower] at hlower
    simp only [le_iff_toNat_le] at hlower
    right
    split at hlower <;> omega

/-- A spelling of a bound is solid. -/
theorem SpellsBound.solid (h : SpellsBound option n) : Text.Solid option := by
  obtain ⟨sign, zeros, rfl, hsign⟩ := h
  have hdigit : ∀ d : Char, d.isDigit = true → 0x2D ≤ d.toNat ∧ d.toNat ≤ 0x7E := by
    intro d hd
    have h0 : '0'.toNat = 48 := rfl
    have h9 : '9'.toNat = 57 := rfl
    have hbounds := isDigit_iff.mp hd
    simp only [le_iff_toNat_le] at hbounds
    omega
  have hkey : boundKey.all (fun c => decide (0x2D ≤ c.toNat ∧ c.toNat ≤ 0x7E)) = true := by decide
  apply solid_of_toNat
  · exact List.append_ne_nil_of_left_ne_nil (by decide) _
  · intro c hc
    rw [List.mem_append, List.mem_append, List.mem_append, Text.describeNat, String.toList_ofList] at hc
    rcases hc with hc | hc | hc | hc
    · exact .inr (of_decide_eq_true (List.all_eq_true.mp hkey c hc))
    · rcases hsign with rfl | rfl
      · cases hc
      · exact .inl (List.mem_singleton.mp hc)
    · exact .inr (hdigit c (List.eq_of_mem_replicate hc ▸ rfl))
    · exact .inr (hdigit c (Nat.isDigit_of_mem_toDigits (by decide) (by decide) hc))

/-- A spelling of a bound below 2^64 gives that bound. -/
theorem SpellsBound.givesBound (h : SpellsBound option n) (hn : n < UInt64.size) : GivesBound option n := by
  obtain ⟨sign, zeros, rfl, hsign⟩ := h
  rw [Text.describeNat, String.toList_ofList]
  refine ⟨sign, _, rfl, hsign, ?_, fun d hd => ?_, ?_, hn⟩
  · exact List.append_ne_nil_of_right_ne_nil _ Nat.toDigits_ne_nil
  · rcases List.mem_append.mp hd with hzero | hdigit
    · cases List.eq_of_mem_replicate hzero
      decide
    · exact isDigit_iff.mp (Nat.isDigit_of_mem_toDigits (by decide) (by decide) hdigit)
  · rw [Nat.ofDigitChars_append, Nat.ofDigitChars_replicate_zero, Nat.mul_zero, Nat.ofDigitChars_ten_toDigits]

end Setting

namespace Config

open Setting

variable {config : Config} {options parts : List (List Char)}

/-- The options of two texts with a comma between them are those of the one and then those of the other. -/
theorem optionsOf_append (before text : List Char) :
    optionsOf (before ++ ',' :: text) = optionsOf before ++ optionsOf text := by
  simp only [optionsOf, Text.splitAt_eq_splitOn, List.splitOn_append_cons_self, List.map_append, List.filter_append]

/-- The options of a text are the solid ones among its parts, without the white space around them. -/
theorem Spaced.optionsOf_eq (h : Spaced options parts) (hsolid : ∀ option ∈ options, Text.Solid option) :
    optionsOf ([','].intercalate parts) = options := by
  have hblank : ∀ {cs : List Char}, (∀ c ∈ cs, Text.isBlank c = true) → ',' ∉ cs :=
    fun hcs hmem => absurd (hcs ',' hmem) (by decide)
  have hboth : (∀ part ∈ parts, ',' ∉ part) ∧ parts.flatMap optionsOf = options := by
    induction h with
    | nil => exact ⟨fun _ hmem => (nomatch hmem), rfl⟩
    | @empty options parts part hpart rest ih =>
      obtain ⟨hcomma, hrest⟩ := ih hsolid
      have htrim : Text.trim (part ++ [] ++ []) = [] :=
        Text.trim_around hpart (fun _ hmem => nomatch hmem) (fun _ hmem => nomatch hmem)
      rw [List.append_nil, List.append_nil] at htrim
      refine ⟨List.forall_mem_cons.mpr ⟨hblank hpart, hcomma⟩, ?_⟩
      rw [List.flatMap_cons, optionsOf_of_notMem (hblank hpart), htrim, hrest]
      rfl
    | @option options parts front option back hfront hback rest ih =>
      obtain ⟨hown, hothers⟩ := List.forall_mem_cons.mp hsolid
      obtain ⟨hcomma, hrest⟩ := ih hothers
      have hpart : ',' ∉ front ++ option ++ back := by
        rw [List.mem_append, List.mem_append, not_or, not_or]
        exact ⟨⟨hblank hfront, hown.noComma⟩, hblank hback⟩
      refine ⟨List.forall_mem_cons.mpr ⟨hpart, hcomma⟩, ?_⟩
      rw [List.flatMap_cons, optionsOf_of_notMem hpart, Text.trim_around hfront hown.visible hback, hrest,
        List.filter_cons_of_pos (by simpa using hown.nonempty)]
      rfl
  rw [optionsOf_intercalate hboth.1, hboth.2]

namespace SpelledBy

/-- Options that spell a configuration are solid. -/
theorem solid (h : config.SpelledBy options) : ∀ option ∈ options, Text.Solid option := by
  obtain ⟨encoding, bound, hencoding, hbound, horder⟩ := h
  have hboth : ∀ option ∈ [encoding, bound], Text.Solid option :=
    List.forall_mem_cons.mpr ⟨hencoding.solid, List.forall_mem_singleton.mpr hbound.solid⟩
  rcases horder with rfl | rfl
  · exact hboth
  · exact fun option hmem => hboth option (List.mem_reverse.mpr hmem)

/-- Options that spell a configuration lead to it from any other. -/
theorem foldl_apply (h : config.SpelledBy options) (hbelow : config.walkBound < UInt64.size) (before : Config) :
    (options.map ofOption).foldl apply before = config := by
  obtain ⟨encoding, bound, hencoding, hspells, horder⟩ := h
  have hbound := hspells.givesBound hbelow
  have hnoName : ∀ e, ¬Names bound e := by
    obtain ⟨sign, digits, rfl, -⟩ := hbound
    exact not_names_of_key (List.prefix_append _ _)
  have hnoBound : ∀ n, ¬GivesBound encoding n := by
    rintro n ⟨sign, digits, rfl, -⟩
    exact not_names_of_key (List.prefix_append _ _) _ hencoding
  have hsetsEncoding := governs_encoding.sets encoding _ hencoding
  have hsetsBound := governs_walkBound.sets bound _ hbound
  have hext : ∀ {other : Config}, other.encoding = config.encoding → other.walkBound = config.walkBound →
      other = config := by
    intro other hsameEncoding hsameBound
    cases other
    cases config
    cases hsameEncoding
    cases hsameBound
    rfl
  rcases horder with rfl | rfl
  · exact hext ((governs_encoding.keeps bound hnoName _).trans (hsetsEncoding before)) (hsetsBound _)
  · exact hext (hsetsEncoding _) ((governs_walkBound.keeps encoding hnoBound _).trans (hsetsBound before))

/-- Nothing is reported on options that spell a configuration. -/
theorem filterMap_warning? (h : config.SpelledBy options) (hbelow : config.walkBound < UInt64.size) :
    (options.filterMap fun option => (ofOption option).warning? option) = [] := by
  obtain ⟨encoding, bound, hencoding, hspells, horder⟩ := h
  have hunderstood : ∀ option ∈ options, Understood option := by
    have hboth : Understood encoding ∧ Understood bound :=
      ⟨.inl ⟨_, hencoding⟩, .inr ⟨_, hspells.givesBound hbelow⟩⟩
    rcases horder with rfl | rfl <;> simpa [and_comm] using hboth
  have hreported := reported_filterMap options
  generalize (options.filterMap fun option => (ofOption option).warning? option) = events at hreported ⊢
  clear horder
  induction hreported with
  | nil => rfl
  | understood _ _ ih => exact ih fun option hmem => hunderstood option (List.mem_cons_of_mem _ hmem)
  | invalidBound hnot => exact absurd (hunderstood _ List.mem_cons_self) hnot
  | unknown hnot => exact absurd (hunderstood _ List.mem_cons_self) hnot

/-- Behind other options, those that spell a configuration decide it, and add no report. -/
theorem ofOptions_behind (h : config.SpelledBy options) (hbelow : config.walkBound < UInt64.size)
    (hspaced : Spaced options parts) (before : List Char) :
    ofOptions (before ++ ',' :: [','].intercalate parts) = ⟨config, (ofOptions before).events⟩ := by
  rw [ofOptions, optionsOf_append, hspaced.optionsOf_eq h.solid]
  simp only [List.map_append, List.foldl_append, List.filterMap_append, h.foldl_apply hbelow,
    h.filterMap_warning? hbelow, List.append_nil]
  rfl

/-- Options that spell a configuration are read as it, without a report. -/
theorem ofOptions_eq (h : config.SpelledBy options) (hbelow : config.walkBound < UInt64.size)
    (hspaced : Spaced options parts) : ofOptions ([','].intercalate parts) = ⟨config, []⟩ := by
  rw [ofOptions, hspaced.optionsOf_eq h.solid]
  simp only [h.foldl_apply hbelow, h.filterMap_warning? hbelow]

end SpelledBy

/-- The options that a configuration is written as spell it, in either order. -/
theorem spelledBy_toOptions (h : options = config.toOptions ∨ options = config.toOptions.reverse) :
    config.SpelledBy options :=
  ⟨_, _, List.forall₂_same.mpr fun _ _ => .inl rfl, ⟨[], 0, rfl, .inl rfl⟩, h⟩

/-- Options with nothing around them are their own parts. -/
theorem spaced_self (options : List (List Char)) : Spaced options options := by
  induction options with
  | nil => exact .nil
  | cons option rest ih =>
    have hpart : Spaced (option :: rest) (([] ++ option ++ []) :: rest) :=
      .option (fun _ hmem => nomatch hmem) (fun _ hmem => nomatch hmem) ih
    rwa [List.nil_append, List.append_nil] at hpart

/-- Every configuration with a bound of 64 bits survives being written. -/
theorem survivesWriting (e : Encoding) (n : UInt64) : SurvivesWriting ⟨e, n.toNat⟩ where
  written options h := (spelledBy_toOptions h).ofOptions_eq n.toNat_lt (spaced_self options)
  spelled _ _ h hspaced := h.ofOptions_eq n.toNat_lt hspaced
  behind before _ _ h hspaced := h.ofOptions_behind n.toNat_lt hspaced before

/-- The largest bound, with a plus sign and zeros in front. One more would be out of range. -/
example :
    let read := ofOptions " ,max-interfaces=+0018446744073709551615 ,, LATIN1".toList
    read.value = ⟨.latin1, 18446744073709551615⟩ ∧ read.events = [] := by
  decide +kernel

end Config

end ObjectModel
