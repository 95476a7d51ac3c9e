import Mathlib.Data.List.Forall2
import Mathlib.Data.List.Induction
import ObjectModel.Config.Options
import ObjectModel.Proofs.Text.Fields

/-!
# The grammar of options

What options in writing say, described without the reader. An option names an encoding or gives a bound, or it says
nothing. Of several options on the same setting the last one counts, and options on the other setting or without a
meaning do not matter to it. Every option without a meaning is reported, and nothing else is.
-/

namespace ObjectModel

/-- Characters that are the same, or the two cases of an ASCII letter. -/
def Text.SameButCase (c d : Char) : Prop :=
  c = d ∨ ('A' ≤ c ∧ c ≤ 'Z' ∧ d.toNat = c.toNat + 32) ∨ ('A' ≤ d ∧ d ≤ 'Z' ∧ c.toNat = d.toNat + 32)

/-- A warning with the given message on an option. -/
structure Event.Warns (event : Event) (message : String) (option : List Char) : Prop where
  level : event.level = .warn
  message : event.message = message
  fields : event.fields = [("option", .text (String.ofList option))]

namespace Setting

/-- The option is the name of the encoding, in letters of either case. -/
def Names (option : List Char) (e : Encoding) : Prop :=
  List.Forall₂ Text.SameButCase option e.name.toList

/-- The option is the key of the bound, then perhaps a plus sign, and then the decimal digits of the bound, which is
below 2^64. -/
def GivesBound (option : List Char) (n : Nat) : Prop :=
  ∃ sign digits, option = boundKey ++ (sign ++ digits) ∧ (sign = [] ∨ sign = ['+']) ∧ digits ≠ [] ∧
    (∀ d ∈ digits, '0' ≤ d ∧ d ≤ '9') ∧ Nat.ofDigitChars 10 digits 0 = n ∧ n < UInt64.size

/-- The option says something. -/
def Understood (option : List Char) : Prop :=
  (∃ e, Names option e) ∨ ∃ n, GivesBound option n

/-- The value that the last of the options with one gives, or the standard one if none of them gives any. -/
def LastGiven {α : Type} (gives : List Char → α → Prop) (standard : α) (options : List (List Char)) (a : α) : Prop :=
  (∃ before option after, options = before ++ option :: after ∧ gives option a ∧
    ∀ later ∈ after, ∀ b, ¬gives later b) ∨ (∀ option ∈ options, ∀ b, ¬gives option b) ∧ a = standard

/-- The reports on options: one on each of those that say nothing, in order. -/
inductive Reported : List (List Char) → List Event → Prop
  | nil : Reported [] []
  | understood {option : List Char} {options : List (List Char)} {events : List Event} (meaning : Understood option)
      (rest : Reported options events) : Reported (option :: options) events
  | invalidBound {option : List Char} {options : List (List Char)} {event : Event} {events : List Event}
      (meaningless : ¬Understood option) (key : boundKey <+: option)
      (warns : event.Warns "ignoring invalid interface bound" option) (rest : Reported options events) :
      Reported (option :: options) (event :: events)
  | unknown {option : List Char} {options : List (List Char)} {event : Event} {events : List Event}
      (meaningless : ¬Understood option) (noKey : ¬boundKey <+: option)
      (warns : event.Warns "ignoring unknown layout option" option) (rest : Reported options events) :
      Reported (option :: options) (event :: events)

end Setting

/-- The options of a text: what is between its commas, without the white space at both ends, unless nothing is left. -/
def Config.HasOptions (text : List Char) (options : List (List Char)) : Prop :=
  ∃ trimmed, List.Forall₂ Text.Trims (text.splitOn ',') trimmed ∧ options = trimmed.filter (· ≠ [])

namespace Setting

variable {option cs rest lead : List Char} {options : List (List Char)} {e : Encoding} {n : Nat}

section Reading

/-- A character is not below another exactly when its number is not. -/
theorem le_iff_toNat_le {c d : Char} : c ≤ d ↔ c.toNat ≤ d.toNat :=
  Char.le_def.trans UInt32.le_iff_toNat_le

/-- The number of an upper-case letter in lower case is greater by 32; other characters stay what they are. -/
theorem toNat_toLower (c : Char) : c.toLower.toNat = if 'A' ≤ c ∧ c ≤ 'Z' then c.toNat + 32 else c.toNat := by
  unfold Char.toLower
  split
  · next h =>
    have hletter : 'A' ≤ c ∧ c ≤ 'Z' := h
    have hle : c.toNat ≤ 90 := le_iff_toNat_le.mp hletter.2
    rw [if_pos hletter]
    change (c.val + 32).toNat = c.val.toNat + 32
    rw [UInt32.toNat_add]
    exact Nat.mod_eq_of_lt (Nat.lt_of_le_of_lt (Nat.add_le_add_right hle 32) (by decide))
  · next h =>
    have hletter : ¬('A' ≤ c ∧ c ≤ 'Z') := h
    rw [if_neg hletter]

/-- Characters are the same but for their case exactly when they are the same in lower case. -/
theorem sameButCase_iff {c d : Char} : Text.SameButCase c d ↔ c.toLower = d.toLower := by
  have hA : 'A'.toNat = 65 := rfl
  have hZ : 'Z'.toNat = 90 := rfl
  rw [Text.SameButCase, ← Char.toNat_inj, ← Char.toNat_inj, toNat_toLower, toNat_toLower]
  simp only [le_iff_toNat_le, hA, hZ]
  split <;> split <;> omega

/-- The name of an encoding has no upper-case letters. -/
theorem map_toLower_name (e : Encoding) : e.name.toList.map Char.toLower = e.name.toList := by
  cases e <;> decide

/-- An option names an encoding exactly when it is the name in lower case. -/
theorem names_iff : Names option e ↔ option.map Char.toLower = e.name.toList := by
  calc Names option e
      ↔ List.Forall₂ (fun c d => c.toLower = d.toLower) option e.name.toList :=
        ⟨fun h => h.imp fun _ _ => sameButCase_iff.mp, fun h => h.imp fun _ _ => sameButCase_iff.mpr⟩
    _ ↔ List.Forall₂ (· = ·) (option.map Char.toLower) (e.name.toList.map Char.toLower) := by
        rw [List.forall₂_map_left_iff, List.forall₂_map_right_iff]
    _ ↔ option.map Char.toLower = e.name.toList := by
        rw [List.forall₂_eq_eq_eq, map_toLower_name]

/-- An encoding is read from just the options that name it. -/
theorem readEncoding?_eq_some_iff : readEncoding? option = some e ↔ Names option e := by
  rw [names_iff, readEncoding?]
  constructor
  · intro h
    have hname := List.find?_some h
    exact (of_decide_eq_true hname).symm
  · intro h
    rw [h]
    cases e <;> decide

/-- A lead can be dropped from just the texts that have it in front. -/
theorem dropLead?_eq_some_iff : dropLead? lead cs = some rest ↔ cs = lead ++ rest := by
  rw [dropLead?]
  split
  · next h =>
    obtain ⟨others, rfl⟩ := List.isPrefixOf_iff_prefix.mp h
    simp
  · next h =>
    refine iff_of_false (fun hnone => nomatch hnone) fun heq => h ?_
    exact List.isPrefixOf_iff_prefix.mpr ⟨rest, heq.symm⟩

/-- The characters from zero to nine are the digits. -/
theorem isDigit_iff {d : Char} : d.isDigit = true ↔ '0' ≤ d ∧ d ≤ '9' := by
  simp [Char.isDigit, Char.le_def]

/-- A number is read from decimal digits of one below 2^64, with or without a plus sign, and from nothing else. -/
theorem readBound?_eq_some_iff : readBound? cs = some n ↔
    ∃ sign digits, cs = sign ++ digits ∧ (sign = [] ∨ sign = ['+']) ∧ digits ≠ [] ∧
      (∀ d ∈ digits, '0' ≤ d ∧ d ≤ '9') ∧ Nat.ofDigitChars 10 digits 0 = n ∧ n < UInt64.size := by
  have hvalue (digits : List Char) : digitsValue digits = Nat.ofDigitChars 10 digits 0 := rfl
  have hall (digits : List Char) : digits.all Char.isDigit = true ↔ ∀ d ∈ digits, '0' ≤ d ∧ d ≤ '9' := by
    simp only [List.all_eq_true, isDigit_iff]
  -- A plus sign is no digit, so what follows it is all that can be the digits.
  have hplus (digits : List Char) (h : ∀ d ∈ digits, '0' ≤ d ∧ d ≤ '9') :
      (dropLead? ['+'] digits).getD digits = digits := by
    cases hlead : dropLead? ['+'] digits with
    | none => rfl
    | some rest =>
      rw [dropLead?_eq_some_iff.mp hlead] at h
      exact absurd (h '+' List.mem_cons_self).1 (by decide)
  rw [readBound?]
  constructor
  · intro h
    split at h
    · next hdigits =>
      obtain ⟨hne, hdecimal, hlt⟩ := hdigits
      cases h
      obtain ⟨sign, hcs, hsign⟩ : ∃ sign, cs = sign ++ (dropLead? ['+'] cs).getD cs ∧ (sign = [] ∨ sign = ['+']) := by
        cases hlead : dropLead? ['+'] cs with
        | none => exact ⟨[], rfl, .inl rfl⟩
        | some rest => exact ⟨['+'], dropLead?_eq_some_iff.mp hlead, .inr rfl⟩
      exact ⟨sign, _, hcs, hsign, hne, (hall _).mp hdecimal, hvalue _, hlt⟩
    · cases h
  · rintro ⟨sign, digits, rfl, hsign, hne, hdecimal, rfl, hlt⟩
    have hdrop : (dropLead? ['+'] (sign ++ digits)).getD (sign ++ digits) = digits := by
      rcases hsign with rfl | rfl
      · exact hplus digits hdecimal
      · rw [dropLead?_eq_some_iff.mpr rfl, Option.getD_some]
    rw [hdrop]
    exact if_pos ⟨hne, (hall digits).mpr hdecimal, hlt⟩

/-- An option that names an encoding is too short to begin with the key of the bound. -/
theorem not_names_of_key (h : boundKey <+: option) (e : Encoding) : ¬Names option e := by
  intro hnames
  have hlength := hnames.length_eq
  have hlong := h.length_le
  have hshort : e.name.toList.length < boundKey.length := by
    cases e <;> decide
  omega

/-- An option gives a bound exactly when it has the key in front of a number that can be read. -/
theorem givesBound_iff :
    GivesBound option n ↔ ∃ value, dropLead? boundKey option = some value ∧ readBound? value = some n := by
  simp only [dropLead?_eq_some_iff, readBound?_eq_some_iff, GivesBound]
  constructor
  · rintro ⟨sign, digits, rfl, hnumber⟩
    exact ⟨sign ++ digits, rfl, sign, digits, rfl, hnumber⟩
  · rintro ⟨_, rfl, sign, digits, rfl, hnumber⟩
    exact ⟨sign, digits, rfl, hnumber⟩

/-- What an option says: it names an encoding, it gives a bound, it has the key of the bound and no bound behind it, or
it is none of these. -/
theorem ofOption_cases (option : List Char) :
    (∃ e, Names option e ∧ (∀ n, ¬GivesBound option n) ∧ ofOption option = .encoding e) ∨
    (∃ n, GivesBound option n ∧ (∀ e, ¬Names option e) ∧ ofOption option = .walkBound n) ∨
    (¬Understood option ∧ boundKey <+: option ∧ ofOption option = .invalidBound) ∨
    (¬Understood option ∧ ¬boundKey <+: option ∧ ofOption option = .unknown) := by
  have hkey : ∀ {n}, GivesBound option n → boundKey <+: option := by
    rintro n ⟨sign, digits, rfl, -⟩
    exact List.prefix_append _ _
  cases hencoding : readEncoding? option with
  | some e =>
    have hnames := readEncoding?_eq_some_iff.mp hencoding
    refine .inl ⟨e, hnames, fun n hbounds => not_names_of_key (hkey hbounds) e hnames, ?_⟩
    rw [ofOption, hencoding]
  | none =>
    have hnot : ∀ e, ¬Names option e := fun e hnames => by
      cases hencoding.symm.trans (readEncoding?_eq_some_iff.mpr hnames)
    cases hlead : dropLead? boundKey option with
    | none =>
      have hnoKey : ¬boundKey <+: option := by
        rintro ⟨rest, hrest⟩
        cases hlead.symm.trans (dropLead?_eq_some_iff.mpr hrest.symm)
      refine .inr (.inr (.inr ⟨?_, hnoKey, by rw [ofOption, hencoding, hlead]⟩))
      rintro (⟨e, hnames⟩ | ⟨n, hbounds⟩)
      · exact hnot e hnames
      · exact hnoKey (hkey hbounds)
    | some value =>
      cases hbound : readBound? value with
      | some n =>
        refine .inr (.inl ⟨n, givesBound_iff.mpr ⟨value, hlead, hbound⟩, hnot, ?_⟩)
        rw [ofOption, hencoding, hlead]
        simp [hbound]
      | none =>
        refine .inr (.inr (.inl ⟨?_, ⟨value, (dropLead?_eq_some_iff.mp hlead).symm⟩, ?_⟩))
        · rintro (⟨e, hnames⟩ | ⟨n, hbounds⟩)
          · exact hnot e hnames
          · obtain ⟨other, hother, hread⟩ := givesBound_iff.mp hbounds
            cases hlead.symm.trans hother
            cases hbound.symm.trans hread
        · rw [ofOption, hencoding, hlead]
          simp [hbound]

end Reading

/-- An option that says nothing changes nothing. -/
theorem apply_ofOption (h : ¬Understood option) (config : Config) : apply config (ofOption option) = config := by
  rcases ofOption_cases option with ⟨e, hnames, -⟩ | ⟨n, hbounds, -⟩ | ⟨-, -, hoption⟩ | ⟨-, -, hoption⟩
  · exact absurd (.inl ⟨e, hnames⟩) h
  · exact absurd (.inr ⟨n, hbounds⟩) h
  all_goals rw [hoption, apply]

/-- An option that names an encoding can be told by reading it. -/
instance : DecidablePred fun option => ∃ e, Names option e := fun option =>
  decidable_of_iff ((readEncoding? option).isSome = true) <| by
    simp only [Option.isSome_iff_exists, readEncoding?_eq_some_iff]

/-- An option that gives a bound can be told by reading it. -/
instance : DecidablePred fun option => ∃ n, GivesBound option n := fun option =>
  decidable_of_iff (((dropLead? boundKey option).bind readBound?).isSome = true) <| by
    simp only [Option.isSome_iff_exists, Option.bind_eq_some_iff, givesBound_iff]

section Governs

variable {α : Type} {gives : List Char → α → Prop} {field : Config → α} {standard a : α}

/-- The options that give a value set a field of the configuration to it, and all others leave the field as it is. -/
structure Governs (gives : List Char → α → Prop) (field : Config → α) : Prop where
  sets : ∀ option a, gives option a → ∀ config, field (apply config (ofOption option)) = a
  keeps : ∀ option, (∀ a, ¬gives option a) → ∀ config, field (apply config (ofOption option)) = field config

/-- Options that name an encoding govern the encoding. -/
theorem governs_encoding : Governs Names Config.encoding where
  sets option e hnames config := by
    rcases ofOption_cases option with ⟨other, hother, -, h⟩ | ⟨n, -, hnot, -⟩ | ⟨hnot, -⟩ | ⟨hnot, -⟩
    · have hread := (readEncoding?_eq_some_iff.mpr hnames).symm.trans (readEncoding?_eq_some_iff.mpr hother)
      rw [h, Option.some.inj hread, apply]
    · exact absurd hnames (hnot e)
    · exact absurd (.inl ⟨e, hnames⟩) hnot
    · exact absurd (.inl ⟨e, hnames⟩) hnot
  keeps option hnot config := by
    rcases ofOption_cases option with ⟨e, hnames, -⟩ | ⟨n, -, -, h⟩ | ⟨-, -, h⟩ | ⟨-, -, h⟩
    · exact absurd hnames (hnot e)
    all_goals rw [h, apply]

/-- Options that give a bound govern the walk bound. -/
theorem governs_walkBound : Governs GivesBound Config.walkBound where
  sets option n hbounds config := by
    rcases ofOption_cases option with ⟨e, -, hnot, -⟩ | ⟨m, hother, -, h⟩ | ⟨hnot, -⟩ | ⟨hnot, -⟩
    · exact absurd hbounds (hnot n)
    · obtain ⟨value, hvalue, hread⟩ := givesBound_iff.mp hbounds
      obtain ⟨value', hvalue', hread'⟩ := givesBound_iff.mp hother
      cases hvalue.symm.trans hvalue'
      rw [h, Option.some.inj (hread.symm.trans hread'), apply]
    · exact absurd (.inr ⟨n, hbounds⟩) hnot
    · exact absurd (.inr ⟨n, hbounds⟩) hnot
  keeps option hnot config := by
    rcases ofOption_cases option with ⟨e, -, -, h⟩ | ⟨n, hbounds, -⟩ | ⟨-, -, h⟩ | ⟨-, -, h⟩
    · rw [h, apply]
    · exact absurd hbounds (hnot n)
    all_goals rw [h, apply]

/-- Before any option the standard value is given. -/
theorem lastGiven_nil : LastGiven gives standard [] standard :=
  .inr ⟨fun _ hmem => absurd hmem List.not_mem_nil, rfl⟩

/-- An option behind all others that gives a value gives the last one. -/
theorem lastGiven_concat (options : List (List Char)) (h : gives option a) :
    LastGiven gives standard (options ++ [option]) a :=
  .inl ⟨options, option, [], rfl, h, fun _ hmem => absurd hmem List.not_mem_nil⟩

/-- An option behind all others that gives no value leaves the last one. -/
theorem LastGiven.concat (h : LastGiven gives standard options a) (hnot : ∀ b, ¬gives option b) :
    LastGiven gives standard (options ++ [option]) a := by
  have hboth : ∀ {others : List (List Char)}, (∀ other ∈ others, ∀ b, ¬gives other b) →
      ∀ other ∈ others ++ [option], ∀ b, ¬gives other b := by
    intro others hothers other hmem
    rcases List.mem_append.mp hmem with hold | hnew
    · exact hothers other hold
    · exact List.mem_singleton.mp hnew ▸ hnot
  rcases h with ⟨before, giver, after, rfl, hgiver, hlater⟩ | ⟨hnone, rfl⟩
  · exact .inl ⟨before, giver, after ++ [option], by simp, hgiver, hboth hlater⟩
  · exact .inr ⟨hboth hnone, rfl⟩

/-- After a list of options a field has the value that the last of those that govern it gives. -/
theorem Governs.lastGiven (h : Governs gives field) (config : Config) (options : List (List Char)) :
    LastGiven gives (field config) options (field ((options.map ofOption).foldl apply config)) := by
  induction options using List.reverseRecOn with
  | nil => exact lastGiven_nil
  | append_singleton options option ih =>
    rw [List.map_append, List.foldl_append, List.map_singleton, List.foldl_cons, List.foldl_nil]
    by_cases hgives : ∃ a, gives option a
    · obtain ⟨a, ha⟩ := hgives
      rw [h.sets option a ha]
      exact lastGiven_concat options ha
    · have hnot := not_exists.mp hgives
      rw [h.keeps option hnot]
      exact ih.concat hnot

/-- The options that do not govern a field may be left out without a change to it. -/
theorem Governs.foldl_filter [DecidablePred fun option => ∃ a, gives option a] (h : Governs gives field)
    {config other : Config} (hsame : field config = field other) (options : List (List Char)) :
    field ((options.map ofOption).foldl apply config) =
      field (((options.filter fun option => ∃ a, gives option a).map ofOption).foldl apply other) := by
  induction options generalizing config other with
  | nil => exact hsame
  | cons option rest ih =>
    by_cases hgives : ∃ a, gives option a
    · obtain ⟨a, ha⟩ := id hgives
      rw [List.filter_cons_of_pos (by simpa using hgives), List.map_cons, List.map_cons, List.foldl_cons,
        List.foldl_cons]
      exact ih ((h.sets option a ha config).trans (h.sets option a ha other).symm)
    · rw [List.filter_cons_of_neg (by simpa using hgives), List.map_cons, List.foldl_cons]
      exact ih ((h.keeps option (not_exists.mp hgives) config).trans hsame)

end Governs

/-- Every option that says nothing is reported in its place. -/
theorem reported_filterMap (options : List (List Char)) :
    Reported options (options.filterMap fun option => (ofOption option).warning? option) := by
  induction options with
  | nil => exact .nil
  | cons option rest ih =>
    rw [List.filterMap_cons]
    rcases ofOption_cases option with ⟨e, hnames, -, h⟩ | ⟨n, hbounds, -, h⟩ | ⟨hnot, hkey, h⟩ | ⟨hnot, hkey, h⟩
    · rw [h]
      exact .understood (.inl ⟨e, hnames⟩) ih
    · rw [h]
      exact .understood (.inr ⟨n, hbounds⟩) ih
    · rw [h]
      exact .invalidBound hnot hkey ⟨rfl, rfl, rfl⟩ ih
    · rw [h]
      exact .unknown hnot hkey ⟨rfl, rfl, rfl⟩ ih

end Setting

namespace Config

open Setting

/-- The options of a text are those that are read from it, and no other list. -/
theorem hasOptions_iff {text : List Char} {options : List (List Char)} :
    HasOptions text options ↔ options = optionsOf text := by
  simp only [HasOptions, Text.forall₂_trims_iff, optionsOf, Text.splitAt_eq_splitOn]
  constructor
  · rintro ⟨_, rfl, hoptions⟩
    exact hoptions
  · intro hoptions
    exact ⟨_, rfl, hoptions⟩

/-- A text is read by the grammar: what is read from it is a configuration with the encoding and the bound that its last
options on them say, and a report on each option that says nothing. Each of the two depends on no other options than
those that say it. -/
structure FollowsGrammar (text : List Char) : Prop where
  options : ∀ options, HasOptions text options ↔ options = optionsOf text
  encoding : LastGiven Names .utf16 (optionsOf text) (ofOptions text).value.encoding
  walkBound : LastGiven GivesBound 65535 (optionsOf text) (ofOptions text).value.walkBound
  encodingAlone : ∀ other,
    (optionsOf other).filter (fun option => ∃ e, Names option e) =
        (optionsOf text).filter (fun option => ∃ e, Names option e) →
      (ofOptions other).value.encoding = (ofOptions text).value.encoding
  walkBoundAlone : ∀ other,
    (optionsOf other).filter (fun option => ∃ n, GivesBound option n) =
        (optionsOf text).filter (fun option => ∃ n, GivesBound option n) →
      (ofOptions other).value.walkBound = (ofOptions text).value.walkBound
  events : Reported (optionsOf text) (ofOptions text).events

/-- Every text is read by the grammar. -/
theorem ofOptions_followsGrammar (text : List Char) : FollowsGrammar text where
  options _ := hasOptions_iff
  encoding := governs_encoding.lastGiven .standard (optionsOf text)
  walkBound := governs_walkBound.lastGiven .standard (optionsOf text)
  encodingAlone other h := by
    rw [ofOptions, ofOptions]
    dsimp only
    rw [governs_encoding.foldl_filter rfl, governs_encoding.foldl_filter rfl (optionsOf text), h]
  walkBoundAlone other h := by
    rw [ofOptions, ofOptions]
    dsimp only
    rw [governs_walkBound.foldl_filter rfl, governs_walkBound.foldl_filter rfl (optionsOf text), h]
  events := reported_filterMap (optionsOf text)

end Config

end ObjectModel
