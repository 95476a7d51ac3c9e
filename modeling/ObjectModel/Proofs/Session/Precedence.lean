import ObjectModel.Proofs.Encoding.Refusal
import ObjectModel.Proofs.Session.Decision
import ObjectModel.Proofs.Session.Strings

/-!
# How the creation of a string is decided

A request for a string is decided by the first rule that applies: the kind of its class, a character that the encoding
lacks, and last the kind of the class of its characters. A request that leaves it to a table to find the classes is decided
before that by whether the table has them, the string class first; the kinds they were loaded with are looked at no
earlier than for classes that the request names.
-/

namespace ObjectModel.Session

/-- A command fails with a fault of the given kind and the given details, and changes nothing. -/
def Declines (s : Session) (command : Command) (kind : FaultKind) (details : List String) : Prop :=
  (s.perform (.command command)).1 = s ∧ (s.perform (.command command)).2.FailsWith kind details

/-- A request for a string of two classes is decided by the first of the rules, in this order, that applies. -/
structure DecidesString (s : Session) (operand charactersOperand : ClassOperand) (c characters : LoadedClass)
    (text : String) (e : Encoding) : Prop where
  /-- The class is not one of strings. -/
  notString : c.info.kind ≠ .string →
    s.Declines (.newString operand charactersOperand text e) .invalidArgument
      ["class " ++ c.info.name.quoted ++ " is " ++ c.info.kind.describe, "expected " ++ TypeKind.string.describe]
  /-- The encoding lacks a character of the text; the first such character is told. -/
  lacking : c.info.kind = .string → (e = .latin1 ∧ ∃ ch ∈ text.toList, 0xFF < ch.toNat) →
    ∃ ch, Encoding.FirstWide text.toList ch ∧
      s.Declines (.newString operand charactersOperand text e) .invalidEncoding
        [Text.quotedChar ch ++ " is outside Latin-1"]
  /-- The class of the characters is not one of arrays of the elements that the encoding needs. -/
  mismatch : c.info.kind = .string → ¬(e = .latin1 ∧ ∃ ch ∈ text.toList, 0xFF < ch.toNat) →
    characters.info.kind ≠ .array e.elementType →
    s.Declines (.newString operand charactersOperand text e) .elementTypeMismatch
      ["class " ++ characters.info.name.quoted ++ " is " ++ characters.info.kind.describe,
        "expected " ++ (TypeKind.array e.elementType).describe]
  /-- No rule applies. -/
  created : c.info.kind = .string → ¬(e = .latin1 ∧ ∃ ch ∈ text.toList, 0xFF < ch.toNat) →
    characters.info.kind = .array e.elementType →
    (s.perform (.command (.newString operand charactersOperand text e))).2.result =
      .ok (.made (.liveInstance s.instances.length))

/-- The same comes of two commands: the response, every instance, and all else in the session. Only the handles that
instances were created through may differ. -/
structure SameOutcome (s : Session) (command other : Command) : Prop where
  response : (s.perform (.command command)).2 = (s.perform (.command other)).2
  instances : ∀ i, (s.perform (.command command)).1.instance? i = (s.perform (.command other)).1.instance? i
  rest : (s.perform (.command command)).1 =
    { (s.perform (.command other)).1 with instances := (s.perform (.command command)).1.instances }

/-- A request for a string of the classes of a table is decided by the first class that the table lacks, and when it has
both, it is the request for a string of these two classes in the configured encoding. -/
structure DecidesStringIn (s : Session) (handle : Nat) (table : ClassTable) (text : String) : Prop where
  noString : table.byString? "java.lang.String" = none →
    s.Declines (.newStringIn handle text) .invalidArgument
      ["class " ++ Text.quoted "java.lang.String" ++ " is not loaded"]
  noCharacters : (table.byString? "java.lang.String").isSome →
    table.byString? (charactersClassName s.config.encoding) = none →
    s.Declines (.newStringIn handle text) .invalidArgument
      ["class " ++ Text.quoted (charactersClassName s.config.encoding) ++ " is not loaded"]
  sameAsNamed : ∀ c characters, table.byString? "java.lang.String" = some c →
    table.byString? (charactersClassName s.config.encoding) = some characters →
    ∀ operand charactersOperand, s.classOf operand = .ok c → s.classOf charactersOperand = .ok characters →
    s.SameOutcome (.newStringIn handle text) (.newString operand charactersOperand text s.config.encoding)
  named : ∀ name c, table.byString? name = some c → s.classOf (.byString handle name) = .ok c

/-- Strings are decided by the classes and the text alone: for classes that are named, unless an array cannot have as many
elements as the text needs, and for those that a table is to find. -/
structure DecidesStrings (s : Session) : Prop where
  ofClasses : ∀ operand charactersOperand c characters text e, s.classOf operand = .ok c →
    s.classOf charactersOperand = .ok characters → e.lengthOf text ≤ 0x7FFFFFFF →
    s.DecidesString operand charactersOperand c characters text e
  inTable : ∀ handle table text, s.table handle = .ok table → s.DecidesStringIn handle table text

variable {s : Session} {operand charactersOperand : ClassOperand} {c characters : LoadedClass} {text : String}
  {e : Encoding} {handle : Nat} {table : ClassTable} {command other : Command}

/-- Creation that fails declines the command. -/
theorem declines_of_created_error {fault : Fault} {through : List Nat}
    (h : s.attempt command = s.created (.error fault) through) :
    s.Declines command fault.kind fault.attachments := by
  rw [Declines, perform_of_created_error h]
  exact ⟨rfl, fault, rfl, rfl, rfl⟩

/-- A string of two classes is created for the classes that the operands name. -/
theorem attempt_newString (hc : s.classOf operand = .ok c) (hcharacters : s.classOf charactersOperand = .ok characters)
    (text : String) (e : Encoding) : s.attempt (.newString operand charactersOperand text e) =
      s.created (Instance.newString s.heap c characters text e) [operand.handle, charactersOperand.handle] := by
  simp only [attempt, hc, hcharacters, Response.given]

/-- The handles that an instance is created through make no difference to what the instances are. -/
theorem instance?_addInstance_congr (heap : Heap) (value : Instance) (through others : List Nat) (i : Nat) :
    (s.addInstance heap value through).instance? i = (s.addInstance heap value others).instance? i := by
  simp only [instance?, addInstance, List.getElem?_append]
  split
  · rfl
  · cases i - s.instances.length <;> rfl

/-- Creating the same through other handles has the same outcome. -/
theorem sameOutcome_of_created {result : Except Fault (Heap × Instance)} {through others : List Nat}
    (h : s.attempt command = s.created result through) (hother : s.attempt other = s.created result others) :
    s.SameOutcome command other := by
  cases result with
  | error fault =>
    have hsame := (perform_of_created_error h).trans (perform_of_created_error hother).symm
    refine ⟨?_, fun i => ?_, ?_⟩
    · rw [hsame]
    · rw [hsame]
    · rw [hsame]
  | ok made =>
    have hmade := perform_of_created h
    have hmadeOther := perform_of_created hother
    refine ⟨?_, fun i => ?_, ?_⟩
    · rw [hmade, hmadeOther]
    · rw [hmade, hmadeOther]
      exact instance?_addInstance_congr _ _ _ _ i
    · rw [hmade, hmadeOther]
      rfl

/-- A request for a string of two classes that the operands name is decided by the rules. -/
theorem decidesString (hc : s.classOf operand = .ok c) (hcharacters : s.classOf charactersOperand = .ok characters)
    (hlength : e.lengthOf text ≤ maxLength) : s.DecidesString operand charactersOperand c characters text e := by
  have hattempt := attempt_newString hc hcharacters text e
  have hdeclines {fault : Fault} (hnew : Instance.newString s.heap c characters text e = .error fault) :
      s.Declines (.newString operand charactersOperand text e) fault.kind fault.attachments :=
    declines_of_created_error (hnew ▸ hattempt)
  refine ⟨fun hkind => ?_, fun hkind hlacking => ?_, fun hkind hhas hmismatch => ?_, fun hkind hhas hfits => ?_⟩
  · exact hdeclines (Instance.newString_eq_error_iff.mpr (.inl ⟨hkind, rfl⟩))
  · cases hencode : e.encode text.toList with
    | ok values => exact absurd hlacking (e.encode_isOk_iff.mp ⟨values, hencode⟩)
    | error fault =>
      obtain rfl := hlacking.1
      obtain ⟨ch, hfirst, rfl⟩ := Encoding.encode_latin1_eq_error_iff.mp hencode
      exact ⟨ch, hfirst, hdeclines (Instance.newString_of_encode_error hkind hencode)⟩
  · obtain ⟨values, hencode⟩ := e.encode_isOk_iff.mpr hhas
    exact hdeclines (Instance.newString_eq_error_iff.mpr (.inr (.inr
      ⟨hkind, values, hencode, Heap.allocateArray_eq_error_iff.mpr (.inl ⟨hmismatch, rfl⟩)⟩)))
  · obtain ⟨values, hencode⟩ := e.encode_isOk_iff.mpr hhas
    have hfew : values.length ≤ maxLength := (Encoding.length_of_encode hencode).trans_le hlength
    obtain ⟨made, hnew⟩ := Instance.newString_of_encode hkind hfits hencode hfew
    rw [perform_of_created (hnew ▸ hattempt)]
    rfl

/-- A class that the table of a handle has is the one that an operand with its name names. -/
theorem classOf_byString {name : String} (htable : s.table handle = .ok table) (h : table.byString? name = some c) :
    s.classOf (.byString handle name) = .ok c := by
  simp only [classOf, findClass, ClassOperand.handle, htable, Except.map, ClassOperand.lookup?, h, Except.bind, orRefuse]

/-- A request for a string of the classes of a table is decided by what the table has. -/
theorem decidesStringIn (htable : s.table handle = .ok table) (text : String) :
    s.DecidesStringIn handle table text := by
  have hattempt : s.attempt (.newStringIn handle text) =
      s.created (Instance.newStringIn s.heap table s.config text) [handle] := by
    simp only [attempt, htable, Response.given]
  have hdeclines {fault : Fault} (hnew : Instance.newStringIn s.heap table s.config text = .error fault) :
      s.Declines (.newStringIn handle text) fault.kind fault.attachments :=
    declines_of_created_error (hnew ▸ hattempt)
  refine ⟨fun hnone => ?_, fun hstring hnone => ?_, fun c characters hc hcharacters operand charactersOperand h h' => ?_,
    fun name c hc => classOf_byString htable hc⟩
  · exact hdeclines (Instance.newStringIn_of_noString hnone)
  · obtain ⟨c, hc⟩ := Option.isSome_iff_exists.mp hstring
    rw [charactersClassName_eq] at hnone ⊢
    exact hdeclines (Instance.newStringIn_of_noCharacters hc hnone)
  · rw [charactersClassName_eq] at hcharacters
    exact sameOutcome_of_created (attempt_newStringIn text htable hc hcharacters) (attempt_newString h h' text _)

/-- A string is granted or declined by a fixed order of rules, in any session. -/
theorem strings_decided (s : Session) : s.DecidesStrings where
  ofClasses _ _ _ _ _ _ hc hcharacters hlength := decidesString hc hcharacters hlength
  inTable _ _ text htable := decidesStringIn htable text

/-- The classes are of the wrong kinds and the encoding lacks the text; each rule shows once those ahead of it are met. -/
example :
    let s := (start.run [.command .newTable, .command (.load 0 (.string "A")), .command (.load 0 (.object "B"))]).1
    (s.perform (.command (.newString (.byString 0 "B") (.byString 0 "B") "a€" .latin1))).2.FailsWith .invalidArgument
      ["class \"B\" is Object", "expected String"] ∧
    (s.perform (.command (.newString (.byString 0 "A") (.byString 0 "B") "a€" .latin1))).2.FailsWith .invalidEncoding
      ["'€' is outside Latin-1"] ∧
    (s.perform (.command (.newString (.byString 0 "A") (.byString 0 "B") "a€" .utf8))).2.FailsWith .elementTypeMismatch
      ["class \"B\" is Object", "expected Array(Byte)"] := by
  refine ⟨⟨_, rfl, rfl, ?_⟩, ⟨_, rfl, rfl, ?_⟩, ⟨_, rfl, rfl, ?_⟩⟩ <;> decide +kernel

/-- A class of arrays has the name of the string class; that the class of the characters is missing is told first. -/
example :
    (start.run [.command .newTable, .command (.newStringIn 0 "a"), .command (.load 0 (.array "java.lang.String" .int)),
      .command (.newStringIn 0 "a"), .command (.load 0 (.object "[C")), .command (.newStringIn 0 "a")]).2.map
        (fun response => match response.result with
          | .error (.faulted (.classNotLoaded name)) => some name
          | .error (.faulted (.wrongKind _ actual _)) => some actual.describe
          | _ => none) =
      [none, some "java.lang.String", none, some "[C", none, some "Array(Int)"] := by
  cbv

end ObjectModel.Session
