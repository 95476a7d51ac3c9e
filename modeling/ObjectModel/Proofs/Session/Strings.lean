import ObjectModel.Proofs.Class.Builtin
import ObjectModel.Proofs.Encoding.Ascii
import ObjectModel.Proofs.Instance
import ObjectModel.Proofs.Session.Handles
import ObjectModel.Proofs.Session.Perform
import ObjectModel.Proofs.Session.Preserved

/-!
# Builtin tables support strings

A table of the builtin classes is made when at least three interfaces are allowed. Whatever is loaded into it later, and
whatever is configured, a string can be created through each of its handles for every text that the encoding has and an
array can hold. It has the classes that the table was made with, and its text is read back as long as the same encoding is
configured.
-/

namespace ObjectModel

/-- The name of the class of the characters of a string. -/
def charactersClassName : Encoding → String
  | .utf16 => "[C"
  | .latin1 => "[B"
  | .utf8 => "[B"

namespace Session

/-- An instance is a string for a text: it has the string class of the table behind a handle, its characters have the
array class there that the encoding needs, and when the encoding is configured it is decoded to the text, whatever is
requested before that and as long as it is not given up. -/
structure HoldsText (s : Session) (handle i : Nat) (text : String) (e : Encoding) : Prop where
  classes : ∃ table c chars id, s.table handle = .ok table ∧ table.byString? "java.lang.String" = some c ∧
    table.byString? (charactersClassName e) = some chars ∧
    s.instance? i = some (.string c e ⟨some c.vector, some id⟩ id) ∧ table.byVector? c.vector = some c ∧
    (s.heap.array id).vector = some chars.vector ∧ table.byVector? chars.vector = some chars
  decoded : ∀ requests, ((s.run requests).1.instance? i).isSome → (s.run requests).1.config.encoding = e →
    (s.run requests).1.ask (.decodeAsConfigured (.ofInstance i)) = .answer (.text text)

/-- What a request for a string of a text comes to: the text is refused if the encoding lacks a character of it, or if it
needs more elements than an array can have, and every other text gets its string. -/
structure SupportsString (s : Session) (handle : Nat) (text : String) : Prop where
  lacking : (s.config.encoding = .latin1 ∧ ∃ c ∈ text.toList, 0xFF < c.toNat) → ∃ fault,
    s.perform (.command (.newStringIn handle text)) = (s, ⟨.error (.faulted fault), []⟩) ∧
      fault.kind = .invalidEncoding
  tooLong : ¬(s.config.encoding = .latin1 ∧ ∃ c ∈ text.toList, 0xFF < c.toNat) →
    0x7FFFFFFF < s.config.encoding.lengthOf text → ∃ fault,
      s.perform (.command (.newStringIn handle text)) = (s, ⟨.error (.faulted fault), []⟩) ∧
        fault.kind = .invalidArgument
  created : ¬(s.config.encoding = .latin1 ∧ ∃ c ∈ text.toList, 0xFF < c.toNat) →
    s.config.encoding.lengthOf text ≤ 0x7FFFFFFF →
      (s.perform (.command (.newStringIn handle text))).2 = .answer (.made (.liveInstance s.instances.length)) ∧
        (s.perform (.command (.newStringIn handle text))).1.HoldsText handle s.instances.length text s.config.encoding

/-- A request for a table of the builtin classes is granted when at least three interfaces are allowed. The table then
supports strings, through every handle of it, after any further requests. -/
structure BuiltinsSupportStrings (s : Session) : Prop where
  granted_iff : (s.perform (.command .newBuiltinTable)).2.result = .ok (.made (.tableHandle s.handles.length)) ↔
    3 ≤ s.config.walkBound
  malformed : s.config.walkBound < 3 → ∃ fault,
    (s.perform (.command .newBuiltinTable)).2.result = .error (.faulted fault) ∧ fault.kind = .malformedMetadata
  handle : 3 ≤ s.config.walkBound →
    (s.perform (.command .newBuiltinTable)).1.tableOf? s.handles.length = some s.tables.length
  strings : 3 ≤ s.config.walkBound → ∀ requests handle text,
    let later := ((s.perform (.command .newBuiltinTable)).1.run requests).1
    later.tableOf? handle = some s.tables.length → later.SupportsString handle text

open Response

variable {s : Session} {handle i : Nat} {text : String} {table : ClassTable} {c chars : LoadedClass}

/-- The class of the characters is named by the descriptor of their element type. -/
theorem charactersClassName_eq (e : Encoding) : charactersClassName e = e.elementType.arrayDescriptor := by
  cases e <;> rfl

/-- What creation gives is added to the session. -/
theorem perform_of_created {command : Command} {made : Heap × Instance} {through : List Nat}
    (h : s.attempt command = s.created (.ok made) through) : s.perform (.command command) =
      (s.addInstance made.1 made.2 through, .answer (.made (.liveInstance s.instances.length))) := by
  rw [perform, after, h]
  rfl

/-- Creation that fails is a request that fails. -/
theorem perform_of_created_error {command : Command} {fault : Fault} {through : List Nat}
    (h : s.attempt command = s.created (.error fault) through) :
    s.perform (.command command) = (s, ⟨.error (.faulted fault), []⟩) := by
  rw [perform, after, h]
  rfl

/-- A string for a table is created for its string class and its class of characters. -/
theorem attempt_newStringIn (text : String) (htable : s.table handle = .ok table)
    (hc : table.byString? stringClassName = some c)
    (hchars : table.byString? s.config.encoding.elementType.arrayDescriptor = some chars) :
    s.attempt (.newStringIn handle text) =
      s.created (Instance.newString s.heap c chars text s.config.encoding) [handle] := by
  simp only [attempt, htable, given, Instance.newStringIn, Instance.requiredClass, hc, hchars]

/-- An instance that is added has the next number. -/
theorem instance?_addInstance (s : Session) (heap : Heap) (value : Instance) (through : List Nat) :
    (s.addInstance heap value through).instance? s.instances.length = some value := by
  rw [instance?, addInstance, List.getElem?_concat_length]
  rfl

/-- A string is decoded through its header. -/
theorem decodeString_of_instance? {e written : Encoding} {header : StringHeader} {id : ArrayId} {outcome : Outcome String}
    (h : s.instance? i = some (.string c written header id)) (hdecode : header.decode? s.heap e = some outcome) :
    s.decodeString (.ofInstance i) e = ofOutcome outcome .text := by
  have hstring : s.string (.ofInstance i) = .ok (some header) := by
    simp only [string, stringInstance, h]
    rfl
  rw [decodeString, hstring]
  simp only [Except.bind, orRefuse, given, hdecode]

/-- A string that is added is decoded to its text as long as it is there. -/
theorem decoded_of_newString {e : Encoding} {later : Heap} {value : Instance} (hkind : c.info.kind = .string)
    (hcharsKind : chars.info.kind = .array e.elementType) (hlength : e.lengthOf text ≤ maxLength)
    (hnew : Instance.newString s.heap c chars text e = .ok (later, value)) (through : List Nat)
    (requests : List Request)
    (hlive : (((s.addInstance later value through).run requests).1.instance? s.instances.length).isSome) :
    ((s.addInstance later value through).run requests).1.decodeString (.ofInstance s.instances.length) e =
      .answer (.text text) := by
  obtain ⟨header, id, hvalue, htext, -⟩ := (Instance.newString_roundTrip hkind hcharsKind hlength).2 later value hnew
  have hstays := (Instance.created_newString hnew).value.stays (grows_run (s.addInstance later value through) requests).heap
  rcases instance?_run (s.instance?_addInstance later value through) requests with hsame | ⟨hnone, -⟩
  · subst hvalue
    exact decodeString_of_instance? hsame (hstays.text.trans htext)
  · rw [hnone] at hlive
    cases hlive

/-- A table that holds the builtin definitions supports strings. -/
theorem supportsString_of_represents {others : List ClassDefinition} (htable : s.table handle = .ok table)
    (h : table.Represents s.heap (builtinDefinitions ++ others)) (text : String) : s.SupportsString handle text := by
  obtain ⟨c, hc, hkind, hvector⟩ := h.exists_stringClass
  obtain ⟨chars, hchars, hcharsKind, hcharsVector⟩ := h.exists_arrayClass s.config.encoding.elementType
  have hattempt := attempt_newStringIn text htable hc hchars
  refine ⟨fun hlacking => ?_, fun hhas hlong => ?_, fun hhas hlength => ?_⟩
  · cases hencoded : s.config.encoding.encode text.toList with
    | error fault =>
      rw [Instance.newString_of_encode_error hkind hencoded] at hattempt
      exact ⟨fault, perform_of_created_error hattempt, Encoding.kind_of_encode_error hencoded⟩
    | ok values => exact absurd hlacking (s.config.encoding.encode_isOk_iff.mp ⟨values, hencoded⟩)
  · obtain ⟨values, hencoded⟩ := s.config.encoding.encode_isOk_iff.mpr hhas
    rw [← Encoding.length_of_encode hencoded] at hlong
    rw [Instance.newString_of_maxLength_lt hkind hcharsKind hencoded hlong] at hattempt
    exact ⟨_, perform_of_created_error hattempt, rfl⟩
  · obtain ⟨⟨later, value⟩, hnew⟩ := (Instance.newString_roundTrip hkind hcharsKind hlength).1.mpr hhas
    rw [hnew] at hattempt
    rw [perform_of_created hattempt]
    refine ⟨rfl, ?_, fun requests hlive hsame => ?_⟩
    · obtain ⟨values, id, -, hallocate, rfl⟩ := Instance.allocated_of_newString hnew
      obtain ⟨-, harray⟩ := Heap.array_of_allocateArray hallocate
      exact ⟨table, c, chars, id, htable, hc, (charactersClassName_eq _).symm ▸ hchars,
        s.instance?_addInstance _ _ _, hvector, congrArg ArrayHeader.vector harray, hcharsVector⟩
    · rw [ask, hsame]
      exact decoded_of_newString hkind hcharsKind hlength hnew [handle] requests hlive

/-- The builtin definitions, each with its position as id. -/
def builtinEntries : List (ClassDefinition × ClassId) :=
  builtinDefinitions.zipIdx.map fun (definition, i) => (definition, ⟨i⟩)

/-- The entries of a table of the builtin classes are the builtin definitions. -/
theorem map_fst_builtinEntries : builtinEntries.map Prod.fst = builtinDefinitions := by
  rw [builtinEntries, List.map_map]
  exact List.zipIdx_map_fst 0 builtinDefinitions

section Builtin

variable {built : Heap × ClassTable}

/-- A table that is made of the builtin classes holds their definitions. -/
theorem holds_newBuiltinTable (h : (ClassTable.withBuiltins s.config.walkBound s.heap).value = .ok built) :
    (s.addTable built.1 built.2).Holds s.tables.length builtinEntries := by
  refine ⟨built.2, List.getElem?_concat_length, ?_, fun i definition id hi => ?_⟩
  · exact map_fst_builtinEntries.symm ▸ ClassTable.represents_withBuiltins h
  · rw [builtinEntries, List.getElem?_map, List.getElem?_zipIdx, Option.map_map, Option.map_eq_some_iff] at hi
    obtain ⟨_, -, hpair⟩ := hi
    cases hpair
    rw [Nat.zero_add]

/-- Without room for three interfaces a table of the builtin classes is refused. -/
theorem newBuiltinTable_of_lt (hbound : s.config.walkBound < 3) : ∃ fault,
    (s.perform (.command .newBuiltinTable)).2.result = .error (.faulted fault) ∧ fault.kind = .malformedMetadata := by
  obtain ⟨name, hfault⟩ := ClassTable.withBuiltins_of_lt s.heap hbound
  refine ⟨.tooManyInterfaces name 3 s.config.walkBound, ?_, rfl⟩
  rw [perform_newBuiltinTable_of_error hfault]

/-- With room for three interfaces a table of the builtin classes gets the next number and a handle. -/
theorem tableOf?_newBuiltinTable (hbound : 3 ≤ s.config.walkBound) :
    (s.perform (.command .newBuiltinTable)).1.tableOf? s.handles.length = some s.tables.length := by
  obtain ⟨built, hbuilt⟩ := ClassTable.exists_withBuiltins s.heap hbound
  rw [perform_newBuiltinTable_of_ok hbuilt]
  exact s.tableOf?_addTable _ _

/-- A table that was made of the builtin classes supports strings through each of its handles, whatever was requested
since. -/
theorem supportsString_run (hbound : 3 ≤ s.config.walkBound) {requests : List Request}
    (hhandle : ((s.perform (.command .newBuiltinTable)).1.run requests).1.tableOf? handle = some s.tables.length)
    (text : String) : ((s.perform (.command .newBuiltinTable)).1.run requests).1.SupportsString handle text := by
  obtain ⟨built, hbuilt⟩ := ClassTable.exists_withBuiltins s.heap hbound
  rw [perform_newBuiltinTable_of_ok hbuilt] at hhandle ⊢
  obtain ⟨table, htable, hrepresents, -⟩ := (holds_newBuiltinTable hbuilt).run requests
  rw [List.map_append, map_fst_builtinEntries] at hrepresents
  exact supportsString_of_represents (table_eq_ok_iff.mpr ⟨_, hhandle, htable⟩) hrepresents text

end Builtin

/-- A text of ASCII is refused when it has more characters than an array can have elements, in every encoding. -/
theorem SupportsString.refuses_of_isAscii (h : s.SupportsString handle text) (hascii : Text.IsAscii text.toList)
    (hlong : 0x7FFFFFFF < text.length) : ∃ fault,
      s.perform (.command (.newStringIn handle text)) = (s, ⟨.error (.faulted fault), []⟩) ∧
        fault.kind = .invalidArgument := by
  refine h.tooLong ?_ ?_
  · rintro ⟨-, c, hc, hwide⟩
    exact absurd (hascii c hc) (Nat.not_lt.mpr (Nat.le_trans (by decide) (Nat.le_of_lt hwide)))
  · rwa [Encoding.lengthOf_of_isAscii hascii]

/-- Builtin tables support strings, whatever the session is and whatever is requested later. -/
theorem builtins_supportStrings (s : Session) : s.BuiltinsSupportStrings where
  granted_iff := by
    constructor
    · intro hok
      by_contra hnot
      obtain ⟨fault, hfault, -⟩ := newBuiltinTable_of_lt (Nat.not_le.mp hnot)
      cases hok.symm.trans hfault
    · intro hbound
      obtain ⟨built, hbuilt⟩ := ClassTable.exists_withBuiltins s.heap hbound
      rw [perform_newBuiltinTable_of_ok hbuilt]
  malformed := newBuiltinTable_of_lt
  handle := tableOf?_newBuiltinTable
  strings hbound _ _ text hhandle := supportsString_run hbound hhandle text

/-- A session in which a table of the builtin classes was made first, and UTF-8 is configured. -/
def withBuiltinsInUtf8 : Session :=
  ((start.perform (.command .newBuiltinTable)).1.run [.command (.replace ⟨.utf8, 65535⟩)]).1

/-- UTF-8 has every text, but there is no string for the letter a written 2147483648 times: that is one element more than
an array can have. -/
theorem builtins_refuse_tooLong :
    withBuiltinsInUtf8.tableOf? 0 = some 0 ∧ withBuiltinsInUtf8.config = ⟨.utf8, 65535⟩ ∧ ∃ fault,
      withBuiltinsInUtf8.perform (.command (.newStringIn 0 (String.ofList (List.replicate 0x80000000 'a')))) =
        (withBuiltinsInUtf8, ⟨.error (.faulted fault), []⟩) ∧ fault.kind = .invalidArgument := by
  have hbound : 3 ≤ start.config.walkBound := by decide
  have hhandle : withBuiltinsInUtf8.tableOf? 0 = some 0 := tableOf?_newBuiltinTable hbound
  have hlength : 0x7FFFFFFF < (String.ofList (List.replicate 0x80000000 'a')).length := by
    rw [String.length_ofList, List.length_replicate]
    decide
  refine ⟨hhandle, rfl, (supportsString_run hbound hhandle _).refuses_of_isAscii ?_ hlength⟩
  rw [String.toList_ofList]
  exact Text.isAscii_replicate (by decide) _

/-- Only a clone is left of the handles, and no interface is allowed any more. The encoding has one of the two texts. -/
example :
    (start.run [.command .newBuiltinTable, .command (.cloneTable 0), .command (.dropTable 0),
      .command (.replace ⟨.latin1, 0⟩), .command (.newStringIn 1 "é"), .command (.newStringIn 1 "€"),
      .query (.decodeAsConfigured (.ofInstance 0))]).2.map (fun response => response.result.toOption) =
      [some (.made (.tableHandle 0)), some (.made (.tableHandle 1)), some .done, some (.previousConfig none),
        some (.made (.liveInstance 0)), none, some (.text "é")] := by
  cbv

end Session

end ObjectModel
