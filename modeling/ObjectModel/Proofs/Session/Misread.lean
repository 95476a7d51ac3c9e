import ObjectModel.Proofs.Encoding.Ascii
import ObjectModel.Proofs.Session.Arrays
import ObjectModel.Proofs.Session.Slot

/-!
# Strings read in the other byte encoding

The class of the characters of a string does not tell the two byte encodings apart, so a string may be read in the one that
it was not written in, above all after the configuration was replaced. This does no harm exactly to a text of ASCII. Any
other text in Latin-1 is refused in UTF-8 or loses characters; in Latin-1 every string in UTF-8 is read, one character for
each byte.
-/

namespace ObjectModel

/-- An array header that stores elements and their number is that of a string that stores them. -/
theorem StringHeader.stores_of_array {heap : Heap} {id : ArrayId} {vector : Option VectorId} {e : Encoding}
    {values : List e.elementType.Value} (place : Option VectorId)
    (harray : heap.array id = ⟨vector, Int32.ofNat values.length, e.elementType, some values⟩)
    (hlength : values.length ≤ maxLength) : StringHeader.Stores heap ⟨place, some id⟩ e values := by
  refine ⟨id, rfl, ?_, ?_⟩
  · rw [harray]
    exact ArrayHeader.elementsAs?_of_stored hlength
  · rw [harray]
    exact toInt_ofNat_of_le_maxLength hlength

namespace Session

open Response

/-- A command that is granted writes a text as the characters of a new string, in the encoding that the command names or
in the one that is configured. -/
structure WritesString (s : Session) (text : String) (e : Encoding) (command : Command) : Prop where
  asks : (∃ operand charactersOperand, command = .newString operand charactersOperand text e) ∨
    ∃ handle, command = .newStringIn handle text ∧ s.config.encoding = e
  granted : (s.perform (.command command)).2.result = .ok (.made (.liveInstance s.instances.length))

/-- Reading a string in an encoding has the given response, whether the encoding is named or configured, and also when it
is configured for this first. -/
structure ReadsIn (s : Session) (i : Nat) (e : Encoding) (response : Response Answer) : Prop where
  named : s.ask (.decode (.ofInstance i) e) = response
  configured : s.config.encoding = e → s.ask (.decodeAsConfigured (.ofInstance i)) = response
  replaced : ∀ bound,
    (s.perform (.command (.replace ⟨e, bound⟩))).1.ask (.decodeAsConfigured (.ofInstance i)) = response

/-- A text in Latin-1 is read in UTF-8 as itself when it is ASCII; otherwise it is refused, or loses characters. -/
structure ReadInUtf8 (text : String) (response : Response Answer) : Prop where
  same_iff : response = .answer (.text text) ↔ Text.IsAscii text.toList
  other : ¬Text.IsAscii text.toList →
    (∃ fault, response = ⟨.error (.faulted fault), []⟩ ∧ fault.kind = .invalidEncoding) ∨
      ∃ read, response = .answer (.text read) ∧ read.length < text.length

/-- A text in UTF-8 is read in Latin-1 as one character for each byte of the character array, which is the text itself
when that is ASCII. -/
def ReadInLatin1 (s : Session) (i : Nat) (text : String) (response : Response Answer) : Prop :=
  ∃ read view bytes, response = .answer (.text read) ∧
    s.ask (.viewArray (.charactersOf i)) = .answer (.array (some view)) ∧ view.elements = ⟨.byte, bytes⟩ ∧
    view.length.toInt = read.length ∧ bytes.length = read.length ∧ (read = text ↔ Text.IsAscii text.toList)

/-- A string that was written in one of the byte encodings is read in the other one, as long as it lives, without harm
exactly when its text is ASCII. -/
structure HarmsOnlyBeyondAscii (s : Session) : Prop where
  latin1 : ∀ text command, s.WritesString text .latin1 command → ∀ requests,
    let later := ((s.perform (.command command)).1.run requests).1
    (later.instance? s.instances.length).isSome →
      ∃ response, later.ReadsIn s.instances.length .utf8 response ∧ ReadInUtf8 text response
  utf8 : ∀ text command, s.WritesString text .utf8 command → ∀ requests,
    let later := ((s.perform (.command command)).1.run requests).1
    (later.instance? s.instances.length).isSome →
      ∃ response, later.ReadsIn s.instances.length .latin1 response ∧
        later.ReadInLatin1 s.instances.length text response

variable {s : Session} {i : Nat} {text : String} {e : Encoding} {command : Command} {c : LoadedClass} {id : ArrayId}

/-- A command that writes a string adds what creating the string gives. -/
theorem WritesString.exists_newString (h : s.WritesString text e command) :
    ∃ c characters made through, Instance.newString s.heap c characters text e = .ok made ∧
      (s.perform (.command command)).1 = s.addInstance made.1 made.2 through := by
  obtain ⟨⟨next, a⟩, hresult, -⟩ := map_eq_ok_iff.mp h.granted
  rw [perform_of_ok hresult]
  rcases h.asks with ⟨operand, charactersOperand, rfl⟩ | ⟨handle, rfl, rfl⟩
  · obtain ⟨c, -, hfound⟩ := result_given_eq_ok_iff.mp hresult
    obtain ⟨characters, -, hcreated⟩ := result_given_eq_ok_iff.mp hfound
    obtain ⟨made, hnew, heq⟩ := result_ofOutcome_eq_ok_iff.mp hcreated
    cases heq
    exact ⟨c, characters, made, _, hnew, rfl⟩
  · obtain ⟨table, -, hcreated⟩ := result_given_eq_ok_iff.mp hresult
    obtain ⟨made, hmade, heq⟩ := result_ofOutcome_eq_ok_iff.mp hcreated
    cases heq
    obtain ⟨c, characters, -, -, hnew⟩ := Instance.newStringIn_eq_ok_iff.mp hmade
    exact ⟨c, characters, made, _, hnew, rfl⟩

/-- As long as a string lives, its character array has the elements that its text was written as, and their number. -/
theorem WritesString.stored (h : s.WritesString text e command) (requests : List Request)
    (hlive : (((s.perform (.command command)).1.run requests).1.instance? s.instances.length).isSome) :
    ∃ c id vector values,
      ((s.perform (.command command)).1.run requests).1.instance? s.instances.length =
        some (.string c e ⟨some c.vector, some id⟩ id) ∧
      e.encode text.toList = .ok values ∧ values.length ≤ maxLength ∧
      ((s.perform (.command command)).1.run requests).1.heap.array id =
        ⟨vector, Int32.ofNat values.length, e.elementType, some values⟩ := by
  obtain ⟨c, characters, ⟨later, value⟩, through, hnew, hperform⟩ := h.exists_newString
  rw [hperform] at hlive ⊢
  obtain ⟨values, id, hencode, hallocate, rfl⟩ := Instance.allocated_of_newString hnew
  obtain ⟨hlength, -⟩ := Heap.array_of_allocateArray hallocate
  obtain ⟨-, -, hstored⟩ := Instance.stored_of_allocateArray hallocate
  have hkept := (grows_run (s.addInstance later (.string c e ⟨some c.vector, some id⟩ id) through) requests).heap.arrays
    _ _ hstored
  rcases instance?_run (s.instance?_addInstance later _ through) requests with hsame | ⟨hnone, -⟩
  · exact ⟨c, id, _, values, hsame, hencode, hlength, by rw [Heap.array, hkept, Option.getD_some]⟩
  · rw [hnone] at hlive
    cases hlive

/-- A string is read in an encoding as its header is decoded. -/
theorem readsIn_of_decode? {written : Encoding} {header : StringHeader} {outcome : Outcome String}
    (h : s.instance? i = some (.string c written header id)) (hdecode : header.decode? s.heap e = some outcome) :
    s.ReadsIn i e (ofOutcome outcome .text) where
  named := decodeString_of_instance? h hdecode
  configured hconfig := by
    rw [ask, hconfig]
    exact decodeString_of_instance? h hdecode
  replaced bound := by
    rw [perform_replace]
    exact decodeString_of_instance? h hdecode

/-- The elements of a character array and their number are what its view shows. -/
theorem viewArray_of_stored {header : StringHeader} {vector : Option VectorId} {t : ElementType} {values : List t.Value}
    (h : s.instance? i = some (.string c e header id))
    (harray : s.heap.array id = ⟨vector, Int32.ofNat values.length, t, some values⟩) (hlength : values.length ≤ maxLength) :
    ∃ view, s.ask (.viewArray (.charactersOf i)) = .answer (.array (some view)) ∧ view.elements = ⟨t, values⟩ ∧
      view.length.toInt = values.length := by
  have hplace : s.array (.charactersOf i) = .ok (some id) := by
    simp only [array, stringInstance, h]
    rfl
  refine ⟨s.arrayView id, ?_, ?_, ?_⟩
  · simp only [ask, hplace, given, Option.map_some]
  · rw [arrayView, harray]
    exact congrArg (ElementType.Values.mk t) (ArrayHeader.elements_of_stored hlength)
  · rw [arrayView, harray]
    exact toInt_ofNat_of_le_maxLength hlength

/-- A text is the answer exactly when it is what decoding gives. -/
theorem ofOutcome_eq_answer_text_iff {result : Except Fault String} :
    ofOutcome ⟨result, []⟩ Answer.text = .answer (.text text) ↔ result = .ok text := by
  cases result with
  | error fault => exact iff_of_false (by rintro ⟨⟩) (by rintro ⟨⟩)
  | ok other =>
    constructor
    · rintro ⟨⟩
      rfl
    · rintro ⟨⟩
      rfl

/-- What was written in Latin-1 is read in UTF-8 as itself, refused, or read with characters lost. -/
theorem readInUtf8_of_encode {values : List Int8} (h : Encoding.latin1.encode text.toList = .ok values) :
    ReadInUtf8 text (ofOutcome ⟨(Encoding.utf8.decode values).map String.ofList, []⟩ .text) where
  same_iff := by
    rw [ofOutcome_eq_answer_text_iff, StringHeader.value_eq_ok_iff, ← Encoding.decode_eq_ok_iff,
      Encoding.decode_utf8_eq_ok_iff h]
  other hother := by
    cases hread : Encoding.utf8.decode values with
    | error fault => exact .inl ⟨fault, rfl, Encoding.kind_of_decode_error hread⟩
    | ok cs =>
      refine .inr ⟨String.ofList cs, rfl, ?_⟩
      rw [String.length_ofList]
      exact Encoding.length_lt_of_decode_utf8 h hother hread

/-- A string that was written in Latin-1 is read in UTF-8. -/
theorem exists_readInUtf8 (h : s.WritesString text .latin1 command) (requests : List Request)
    (hlive : (((s.perform (.command command)).1.run requests).1.instance? s.instances.length).isSome) :
    ∃ response, ((s.perform (.command command)).1.run requests).1.ReadsIn s.instances.length .utf8 response ∧
      ReadInUtf8 text response := by
  obtain ⟨c, id, vector, values, hinstance, hencode, hlength, harray⟩ := h.stored requests hlive
  have hstores := StringHeader.stores_of_array (e := .utf8) (some c.vector) harray hlength
  exact ⟨_, readsIn_of_decode? hinstance (StringHeader.decode?_of_stores hstores), readInUtf8_of_encode hencode⟩

/-- A string that was written in UTF-8 is read in Latin-1. -/
theorem exists_readInLatin1 (h : s.WritesString text .utf8 command) (requests : List Request)
    (hlive : (((s.perform (.command command)).1.run requests).1.instance? s.instances.length).isSome) :
    ∃ response, ((s.perform (.command command)).1.run requests).1.ReadsIn s.instances.length .latin1 response ∧
      ((s.perform (.command command)).1.run requests).1.ReadInLatin1 s.instances.length text response := by
  obtain ⟨c, id, vector, values, hinstance, hencode, hlength, harray⟩ := h.stored requests hlive
  have hstores := StringHeader.stores_of_array (e := .latin1) (some c.vector) harray hlength
  obtain ⟨view, hview, helements, hviewed⟩ := viewArray_of_stored hinstance harray hlength
  obtain ⟨cs, hread, hcount⟩ := Encoding.exists_decode_latin1 values
  refine ⟨_, readsIn_of_decode? hinstance (StringHeader.decode?_of_stores hstores), String.ofList cs, view, values, ?_,
    hview, helements, ?_, ?_, ?_⟩
  · rw [hread]
    rfl
  · rw [String.length_ofList, hcount, hviewed]
  · rw [String.length_ofList, hcount]
  · rw [← Encoding.decode_latin1_eq_ok_iff hencode, Encoding.decode_eq_ok_iff, ← StringHeader.value_eq_ok_iff, hread]
    exact ⟨congrArg Except.ok, Except.ok.inj⟩

/-- Strings are read in the other byte encoding without harm exactly when they are ASCII, in any session. -/
theorem misread_harmsOnlyBeyondAscii (s : Session) : s.HarmsOnlyBeyondAscii where
  latin1 _ _ hwrites requests hlive := exists_readInUtf8 hwrites requests hlive
  utf8 _ _ hwrites requests hlive := exists_readInLatin1 hwrites requests hlive

/-- The two characters that the bytes of one are in Latin-1 become that one in UTF-8, and the one by itself is refused. -/
example :
    ((start.run [.command .newBuiltinTable, .command (.replace ⟨.latin1, 3⟩), .command (.newStringIn 0 "Ã©"),
      .command (.newStringIn 0 "é"), .command (.replace ⟨.utf8, 3⟩), .query (.decodeAsConfigured (.ofInstance 0)),
      .query (.decodeAsConfigured (.ofInstance 1))]).2.drop 5).map (·.result) =
      [.ok (.text "é"), .error (.faulted (.invalidUtf8 0))] := by
  cbv

end Session

end ObjectModel
