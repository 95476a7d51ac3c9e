import ObjectModel.Proofs.Config.Options
import ObjectModel.Proofs.Text.Lossy

/-!
# Options that are not text

The value of an environment variable is bytes, which need not be UTF-8. A comma separates options in the bytes as it
does in a text, so bytes that are not UTF-8 spoil the option that they are in and no other: it says nothing and is
reported.
-/

namespace ObjectModel

namespace Setting

variable {option : List Char}

/-- No option with U+FFFD in it says anything. -/
theorem not_understood_of_replacement (h : '\uFFFD' ∈ option) : ¬Understood option := by
  rintro (⟨e, hnames⟩ | ⟨n, sign, digits, rfl, hsign, -, hdigits, -⟩)
  · have hname : '\uFFFD'.toLower ∈ e.name.toList := names_iff.mp hnames ▸ List.mem_map_of_mem h
    cases e <;> revert hname <;> decide
  · rcases List.mem_append.mp h with hkey | hvalue
    · exact absurd hkey (by decide)
    · rcases List.mem_append.mp hvalue with hmem | hmem
      · rcases hsign with rfl | rfl <;> revert hmem <;> decide
      · exact absurd (hdigits _ hmem).2 (by decide)

end Setting

namespace Config

open Setting

variable {text : List Char} {parts : List (List Char)} {segment : List UInt8}

section Parts

/-- A text without a comma is an option, unless trimming leaves nothing of it. -/
theorem optionsOf_of_notMem (h : ',' ∉ text) : optionsOf text = [Text.trim text].filter (· ≠ []) := by
  rw [optionsOf, Text.splitAt_eq_splitOn, List.splitOn_eq_singleton h, List.map_singleton]

/-- The options of parts with commas between them are those of each part. -/
theorem optionsOf_intercalate (h : ∀ part ∈ parts, ',' ∉ part) :
    optionsOf ([','].intercalate parts) = parts.flatMap optionsOf := by
  by_cases hparts : parts = []
  · rw [hparts]
    rfl
  · have hown : ∀ part ∈ parts, optionsOf part = [Text.trim part].filter (· ≠ []) :=
      fun part hmem => optionsOf_of_notMem (h part hmem)
    rw [optionsOf, Text.splitAt_eq_splitOn, List.splitOn_intercalate ',' h hparts, List.flatMap_congr hown,
      List.map_eq_flatMap, List.filter_flatMap]

/-- The reports on parts with commas between them are those on each part. -/
theorem events_intercalate (h : ∀ part ∈ parts, ',' ∉ part) :
    (ofOptions ([','].intercalate parts)).events = parts.flatMap fun part => (ofOptions part).events := by
  rw [ofOptions]
  dsimp only
  rw [optionsOf_intercalate h, List.filterMap_flatMap]
  rfl

end Parts

section Segments

/-- The reports that a segment of the bytes causes, read by itself. -/
def reportsOf (segment : List UInt8) : List Event :=
  (ofOptions (Utf8.decodeLossy segment)).events

/-- The bytes of an environment variable are read as the text of those segments between their commas that are UTF-8.
Every other segment causes one warning in its place, on the option that it would have been. -/
structure SpoilsOnlyOwn (bytes : List UInt8) (text : List Char) : Prop where
  kept : Utf8.encode text = [0x2C].intercalate ((bytes.splitOn 0x2C).filter (Utf8.WellFormed ·))
  value : (ofEnvironment (some bytes)).value = (ofOptions text).value
  spoiled : ∀ segment ∈ bytes.splitOn 0x2C, ¬Utf8.WellFormed segment → ∃ event, reportsOf segment = [event] ∧
    (event.Warns "ignoring invalid interface bound" (Text.trim (Utf8.decodeLossy segment)) ∨
      event.Warns "ignoring unknown layout option" (Text.trim (Utf8.decodeLossy segment)))
  events : (ofEnvironment (some bytes)).events = (bytes.splitOn 0x2C).flatMap reportsOf
  eventsOfText : (ofOptions text).events = ((bytes.splitOn 0x2C).filter (Utf8.WellFormed ·)).flatMap reportsOf

/-- Reading leaves no comma that is not in the bytes. -/
theorem comma_notMem_decodeLossy (h : 0x2C ∉ segment) : ',' ∉ Utf8.decodeLossy segment :=
  fun hmem => h (Utf8.mem_of_mem_decodeLossy (b := 0x2C) (by decide) hmem)

/-- Bytes without a comma that are not UTF-8 are one option, which says nothing. -/
theorem optionsOf_malformed (hcomma : 0x2C ∉ segment) (h : ¬Utf8.WellFormed segment) :
    optionsOf (Utf8.decodeLossy segment) = [Text.trim (Utf8.decodeLossy segment)] ∧
      ¬Understood (Text.trim (Utf8.decodeLossy segment)) := by
  have hmem : '\uFFFD' ∈ Text.trim (Utf8.decodeLossy segment) :=
    Text.mem_trim (Utf8.replacement_mem_decodeLossy h) (by decide)
  refine ⟨?_, not_understood_of_replacement hmem⟩
  rw [optionsOf_of_notMem (comma_notMem_decodeLossy hcomma)]
  exact List.filter_cons_of_pos (by simpa using List.ne_nil_of_mem hmem)

/-- Bytes without a comma that are not UTF-8 are reported once. -/
theorem reportsOf_malformed (hcomma : 0x2C ∉ segment) (h : ¬Utf8.WellFormed segment) :
    ∃ event, reportsOf segment = [event] ∧
      (event.Warns "ignoring invalid interface bound" (Text.trim (Utf8.decodeLossy segment)) ∨
        event.Warns "ignoring unknown layout option" (Text.trim (Utf8.decodeLossy segment))) := by
  obtain ⟨hoptions, hnot⟩ := optionsOf_malformed hcomma h
  have hreported : Reported [Text.trim (Utf8.decodeLossy segment)] (reportsOf segment) := by
    rw [← hoptions]
    exact reported_filterMap _
  generalize reportsOf segment = events at hreported ⊢
  cases hreported with
  | understood hmeaning => exact absurd hmeaning hnot
  | invalidBound _ _ hwarns hrest =>
    cases hrest
    exact ⟨_, rfl, .inl hwarns⟩
  | unknown _ _ hwarns hrest =>
    cases hrest
    exact ⟨_, rfl, .inr hwarns⟩

/-- The segments that are not UTF-8 change nothing in a configuration. -/
theorem foldl_apply_filter_wellFormed (config : Config) (segments : List (List UInt8))
    (hcomma : ∀ segment ∈ segments, 0x2C ∉ segment) :
    ((segments.flatMap fun segment => optionsOf (Utf8.decodeLossy segment)).map ofOption).foldl apply config =
      (((segments.filter (Utf8.WellFormed ·)).flatMap fun segment => optionsOf (Utf8.decodeLossy segment)).map
        ofOption).foldl apply config := by
  induction segments generalizing config with
  | nil => rfl
  | cons segment rest ih =>
    have hrest (config : Config) := ih config fun other hmem => hcomma other (List.mem_cons_of_mem _ hmem)
    by_cases h : Utf8.WellFormed segment
    · rw [List.filter_cons_of_pos (by simpa using h), List.flatMap_cons, List.flatMap_cons, List.map_append,
        List.map_append, List.foldl_append, List.foldl_append, hrest]
    · obtain ⟨hoptions, hnot⟩ := optionsOf_malformed (hcomma segment List.mem_cons_self) h
      rw [List.filter_cons_of_neg (by simpa using h), List.flatMap_cons, hoptions, List.singleton_append, List.map_cons,
        List.foldl_cons, apply_ofOption hnot, hrest]

/-- Bytes that are not UTF-8 in the value of an environment variable spoil no option but their own. -/
theorem ofEnvironment_spoilsOnlyOwn (bytes : List UInt8) : ∃ text, SpoilsOnlyOwn bytes text := by
  have hcomma : ∀ segment ∈ bytes.splitOn 0x2C, 0x2C ∉ segment := fun _ hmem => Text.notMem_of_mem_splitOn hmem
  have hfree : ∀ segments ⊆ bytes.splitOn 0x2C, ∀ part ∈ segments.map Utf8.decodeLossy, ',' ∉ part := by
    intro segments hsegments part hmem
    obtain ⟨segment, hsegment, rfl⟩ := List.mem_map.mp hmem
    exact comma_notMem_decodeLossy (hcomma segment (hsegments hsegment))
  have hall := hfree (bytes.splitOn 0x2C) (List.Subset.refl _)
  have hkept := hfree ((bytes.splitOn 0x2C).filter (Utf8.WellFormed ·)) (List.filter_subset_self _)
  have hread : Utf8.decodeLossy bytes = [','].intercalate ((bytes.splitOn 0x2C).map Utf8.decodeLossy) :=
    (List.intercalate_splitOn ',').symm.trans
      (congrArg [','].intercalate (Utf8.splitOn_decodeLossy (b := 0x2C) (by decide) bytes))
  refine ⟨[','].intercalate (((bytes.splitOn 0x2C).filter (Utf8.WellFormed ·)).map Utf8.decodeLossy), ?_, ?_,
    fun segment hmem => reportsOf_malformed (hcomma segment hmem), ?_, ?_⟩
  · have hwritten : ((bytes.splitOn 0x2C).filter (Utf8.WellFormed ·)).map (Utf8.encode ∘ Utf8.decodeLossy) =
        (bytes.splitOn 0x2C).filter (Utf8.WellFormed ·) := by
      refine (List.map_congr_left fun segment hmem => ?_).trans (List.map_id _)
      exact Utf8.encode_decodeLossy (by simpa using (List.mem_filter.mp hmem).2)
    rw [Utf8.encode_intercalate, List.map_map, hwritten]
    rfl
  · rw [ofEnvironment, hread, ofOptions, ofOptions]
    dsimp only
    rw [optionsOf_intercalate hall, optionsOf_intercalate hkept, List.flatMap_map, List.flatMap_map]
    exact foldl_apply_filter_wellFormed .standard _ hcomma
  · rw [ofEnvironment, hread, events_intercalate hall, List.flatMap_map]
    rfl
  · rw [events_intercalate hkept, List.flatMap_map]
    rfl

end Segments

end Config

end ObjectModel
