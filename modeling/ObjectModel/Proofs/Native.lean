import ObjectModel.Proofs.Report
import ObjectModel.Session.Query

/-!
# Entry points follow the checked reads

An entry point for native code gives what the checked read of its name gives, with the same events. Where the read
fails, it gives a sentinel instead, and reports one violation more, under its own symbol. For an address or a length the
sentinel is nothing that a read accepts, so native code can tell a failure by it.
-/

namespace ObjectModel

/-- The report of a violation by the entry point of a symbol. -/
structure Event.IsViolation (symbol : String) (event : Event) : Prop where
  level : event.level = .error
  message : event.message = "object layout violation"
  fields : event.fields = [("function", .text symbol)]

/-- The violation of an entry point carries its symbol. -/
theorem Event.isViolation_violation (entry : EntryPoint) : Event.IsViolation entry.symbol (.violation entry) :=
  ⟨rfl, rfl, rfl⟩

/-- The report on a fault is no error. -/
theorem Fault.level_report?_ne_error (fault : Fault) : ∀ event ∈ fault.report?, event.level ≠ .error := by
  intro event hmem
  rw [fault.level_report? event hmem]
  exact Level.noConfusion

section StandsIn

variable {α β : Type}

/-- What cannot fail stands in for a read: it gives the value of the read as seen there with the events of the read, or
the sentinel with one violation behind these events. -/
structure Logged.StandsIn (native : Logged β) (symbol : String) (sentinel : β) (seen : α → β) (read : Outcome α) :
    Prop where
  ok : ∀ a, read.value = .ok a → native = ⟨seen a, read.events⟩
  error : ∀ fault, read.value = .error fault →
    ∃ report, Event.IsViolation symbol report ∧ native = ⟨sentinel, read.events ++ [report]⟩
  /-- The read itself reports no error, so the violation is the only one. -/
  quiet : ∀ event ∈ read.events, event.level ≠ .error

variable {native : Logged β} {symbol : String} {sentinel : β} {seen : α → β} {read : Outcome α}

/-- Falling back to a sentinel stands in for a read that reports no error. -/
theorem Native.standsIn_orSentinel (entry : EntryPoint) (sentinel : α)
    (hquiet : ∀ event ∈ read.events, event.level ≠ .error) :
    (Native.orSentinel entry sentinel read).StandsIn entry.symbol sentinel id read := by
  obtain ⟨value, events⟩ := read
  refine ⟨fun a ha => ?_, fun fault hfault => ?_, hquiet⟩
  · cases ha
    rfl
  · cases hfault
    exact ⟨_, Event.isViolation_violation entry, rfl⟩

/-- What stands in for a read that is seen through a function stands in for the read. -/
theorem Logged.StandsIn.of_map (h : native.StandsIn symbol sentinel id (read.map seen)) :
    native.StandsIn symbol sentinel seen read := by
  obtain ⟨value, events⟩ := read
  refine ⟨fun a ha => ?_, fun fault hfault => ?_, h.quiet⟩
  · cases ha
    exact h.ok _ rfl
  · cases hfault
    exact h.error _ rfl

/-- The sentinel is given when the read fails, and else only if the read accepts what is seen as the sentinel. -/
theorem Logged.StandsIn.value_eq_sentinel_iff (h : native.StandsIn symbol sentinel seen read) :
    native.value = sentinel ↔
      (∃ fault, read.value = .error fault) ∨ ∃ a, read.value = .ok a ∧ seen a = sentinel := by
  cases hvalue : read.value with
  | ok a =>
    rw [h.ok a hvalue]
    simp
  | error fault =>
    obtain ⟨report, -, heq⟩ := h.error fault hvalue
    rw [heq]
    simp

/-- The sentinel is given exactly when the read fails, if it is nothing that the read accepts. -/
theorem Logged.StandsIn.value_eq_sentinel_iff_of_ne (h : native.StandsIn symbol sentinel seen read)
    (hne : ∀ a, read.value = .ok a → seen a ≠ sentinel) :
    native.value = sentinel ↔ ∃ fault, read.value = .error fault :=
  h.value_eq_sentinel_iff.trans (or_iff_left fun ⟨a, ha, heq⟩ => hne a ha heq)

end StandsIn

namespace Access

variable {heap : Heap} {limit : Nat} {event : Event}

/-- Reading a dispatch vector reports no error. -/
theorem level_ne_error_of_dispatchVector {header : Option ObjectHeader} (h : event ∈ (dispatchVector header).events) :
    event.level ≠ .error := by
  rcases header with - | ⟨- | vector⟩
  · cases h
  · cases List.mem_singleton.mp h
    decide
  · cases h

/-- Looking up an interface reports no error. -/
theorem level_ne_error_of_implementsInterface {vector : Option VectorId} {name : CString}
    (h : event ∈ (implementsInterface heap limit vector name).events) : event.level ≠ .error :=
  (reports_implementsInterface heap limit vector name).forall_mem Fault.level_report?_ne_error
    (fun _ => List.forall_mem_singleton.mpr Level.noConfusion) event h

/-- Checking an array header reports no error. -/
theorem level_ne_error_of_checkedArray {array : Option ArrayId} (h : event ∈ (checkedArray heap array).events) :
    event.level ≠ .error :=
  (reports_checkedArray heap array).forall_mem Fault.level_report?_ne_error (fun _ => List.forall_mem_nil _) event h

/-- Reading the characters of a string reports no error. -/
theorem level_ne_error_of_stringCharacters {header : Option StringHeader}
    (h : event ∈ (stringCharacters header).events) : event.level ≠ .error := by
  rcases header with - | ⟨vector, - | id⟩
  · cases h
  · cases List.mem_singleton.mp h
    decide
  · cases h

/-- An array header is accepted exactly when it is there and its length is not negative. -/
theorem value_checkedArray_eq_ok_iff {array : Option ArrayId} {header : ArrayHeader} :
    (checkedArray heap array).value = .ok header ↔
      ∃ id, array = some id ∧ heap.array id = header ∧ ¬header.length < 0 := by
  cases array with
  | none => simp [checkedArray, Outcome.fail]
  | some id =>
    rw [checkedArray]
    by_cases hnegative : (heap.array id).length < 0
    · simp only [if_pos hnegative, Outcome.failWith, reduceCtorEq, Option.some.injEq, exists_eq_left', false_iff]
      rintro ⟨rfl, hnonneg⟩
      exact hnonneg hnegative
    · simp only [if_neg hnegative, Outcome.ok, Except.ok.injEq, Option.some.injEq, exists_eq_left']
      exact ⟨fun heq => ⟨heq, heq ▸ hnegative⟩, And.left⟩

/-- An accepted length is not that of the sentinel. -/
theorem ne_neg_one_of_arrayLength {array : Option ArrayId} {length : Int32}
    (h : (arrayLength heap array).value = .ok length) : length ≠ -1 := by
  obtain ⟨header, hheader, rfl⟩ := map_eq_ok_iff.mp h
  obtain ⟨id, -, -, hnonneg⟩ := value_checkedArray_eq_ok_iff.mp hheader
  intro heq
  rw [heq] at hnonneg
  exact hnonneg (by decide)

/-- The accepted data is null exactly when the stored address is, whose array has no negative length. -/
theorem value_arrayData_eq_ok_none_iff {array : Option ArrayId} :
    (arrayData heap array).value = .ok none ↔
      ∃ id, array = some id ∧ 0 ≤ (heap.array id).length.toInt ∧ (heap.array id).data = none := by
  rw [arrayData, Outcome.map, map_eq_ok_iff]
  constructor
  · rintro ⟨header, hheader, hnone⟩
    obtain ⟨id, rfl, rfl, hnonneg⟩ := value_checkedArray_eq_ok_iff.mp hheader
    rw [Int32.lt_iff_toInt_lt, Int.not_lt] at hnonneg
    exact ⟨id, rfl, hnonneg, Option.map_eq_none_iff.mp hnone⟩
  · rintro ⟨id, rfl, hnonneg, hnone⟩
    refine ⟨_, value_checkedArray_eq_ok_iff.mpr ⟨id, rfl, rfl, ?_⟩, Option.map_eq_none_iff.mpr hnone⟩
    rw [Int32.lt_iff_toInt_lt]
    exact Int.not_lt.mpr hnonneg

end Access

/-- The entry points over a heap and a walk bound, for all addresses, well formed or not. -/
structure Native.FollowsReads (heap : Heap) (limit : Nat) : Prop where
  vector : ∀ header, (Native.dispatchVector header).StandsIn "objlayout_dispatch_vector" none some
    (Access.dispatchVector header)
  implements : ∀ vector name, (Native.implementsInterface heap limit vector (some name)).StandsIn
    "objlayout_implements_interface" false id (Access.implementsInterface heap limit vector name)
  length : ∀ array, (Native.arrayLength heap array).StandsIn "objlayout_array_length" (-1) id
    (Access.arrayLength heap array)
  data : ∀ array, (Native.arrayData heap array).StandsIn "objlayout_array_data" none id (Access.arrayData heap array)
  characters : ∀ header, (Native.stringCharacters header).StandsIn "objlayout_string_characters" none some
    (Access.stringCharacters header)
  /-- A null name fails whatever the dispatch vector is; nothing is looked up, so nothing else is reported. -/
  nullName : ∀ vector, ∃ report, Event.IsViolation "objlayout_implements_interface" report ∧
    Native.implementsInterface heap limit vector none = ⟨false, [report]⟩
  null_vector_iff : ∀ header, (Native.dispatchVector header).value = none ↔
    ∃ fault, (Access.dispatchVector header).value = .error fault
  negative_length_iff : ∀ array, (Native.arrayLength heap array).value = -1 ↔
    ∃ fault, (Access.arrayLength heap array).value = .error fault
  null_data_iff : ∀ array, (Native.arrayData heap array).value = none ↔
    (∃ fault, (Access.arrayData heap array).value = .error fault) ∨
      ∃ id, array = some id ∧ 0 ≤ (heap.array id).length.toInt ∧ (heap.array id).data = none
  null_characters_iff : ∀ header, (Native.stringCharacters header).value = none ↔
    ∃ fault, (Access.stringCharacters header).value = .error fault

namespace Native

/-- The entry point for dispatch vectors stands in for the read. -/
theorem standsIn_dispatchVector (header : Option ObjectHeader) :
    (dispatchVector header).StandsIn "objlayout_dispatch_vector" none some (Access.dispatchVector header) :=
  .of_map (standsIn_orSentinel .dispatchVector none fun _ => Access.level_ne_error_of_dispatchVector)

/-- The entry point for lookups stands in for the read when the name is not null. -/
theorem standsIn_implementsInterface (heap : Heap) (limit : Nat) (vector : Option VectorId) (name : CString) :
    (implementsInterface heap limit vector (some name)).StandsIn "objlayout_implements_interface" false id
      (Access.implementsInterface heap limit vector name) :=
  standsIn_orSentinel .implementsInterface false fun _ => Access.level_ne_error_of_implementsInterface

/-- The entry point for lengths stands in for the read. -/
theorem standsIn_arrayLength (heap : Heap) (array : Option ArrayId) :
    (arrayLength heap array).StandsIn "objlayout_array_length" (-1) id (Access.arrayLength heap array) :=
  standsIn_orSentinel .arrayLength (-1) fun _ => Access.level_ne_error_of_checkedArray

/-- The entry point for data stands in for the read. -/
theorem standsIn_arrayData (heap : Heap) (array : Option ArrayId) :
    (arrayData heap array).StandsIn "objlayout_array_data" none id (Access.arrayData heap array) :=
  standsIn_orSentinel .arrayData none fun _ => Access.level_ne_error_of_checkedArray

/-- The entry point for characters stands in for the read. -/
theorem standsIn_stringCharacters (header : Option StringHeader) :
    (stringCharacters header).StandsIn "objlayout_string_characters" none some (Access.stringCharacters header) :=
  .of_map (standsIn_orSentinel .stringCharacters none fun _ => Access.level_ne_error_of_stringCharacters)

/-- The entry points follow the checked reads over every heap and under every walk bound. -/
theorem followsReads (heap : Heap) (limit : Nat) : FollowsReads heap limit where
  vector := standsIn_dispatchVector
  implements := standsIn_implementsInterface heap limit
  length := standsIn_arrayLength heap
  data := standsIn_arrayData heap
  characters := standsIn_stringCharacters
  nullName _ := ⟨_, Event.isViolation_violation .implementsInterface, rfl⟩
  null_vector_iff header :=
    (standsIn_dispatchVector header).value_eq_sentinel_iff_of_ne fun _ _ => Option.some_ne_none _
  negative_length_iff array :=
    (standsIn_arrayLength heap array).value_eq_sentinel_iff_of_ne fun _ => Access.ne_neg_one_of_arrayLength
  null_data_iff array := by
    rw [(standsIn_arrayData heap array).value_eq_sentinel_iff, ← Access.value_arrayData_eq_ok_none_iff]
    simp only [id_eq, exists_eq_right]
  null_characters_iff header :=
    (standsIn_stringCharacters header).value_eq_sentinel_iff_of_ne fun _ _ => Option.some_ne_none _

end Native

/-- A request through an entry point follows the request for the read: it is refused when that is, it has the same
answer and events when the read succeeds, and else it has the sentinel for an answer and one violation more. -/
structure Response.Follows (native : Response Answer) (symbol : String) (sentinel : Answer) (read : Response Answer) :
    Prop where
  refused : ∀ refusal, read.result = .error (.refused refusal) → native = read
  ok : ∀ a, read.result = .ok a → native = read
  faulted : ∀ fault, read.result = .error (.faulted fault) →
    ∃ report, Event.IsViolation symbol report ∧ native = ⟨.ok sentinel, read.events ++ [report]⟩
  quiet : ∀ event ∈ read.events, event.level ≠ .error

open Response in
/-- Requests with one operand follow each other when what they do with it stands in for each other. -/
theorem Response.follows_given {α β γ : Type} {operand : Except Refusal α} {native : α → Logged γ}
    {read : α → Outcome β} {symbol : String} {sentinel : γ} {seen : β → γ} {shown : γ → Answer}
    (h : ∀ a, (native a).StandsIn symbol sentinel seen (read a)) :
    (given operand fun a => ofLogged (native a) shown).Follows symbol (shown sentinel)
      (given operand fun a => ofOutcome (read a) fun b => shown (seen b)) := by
  cases operand with
  | error refusal =>
    exact
      { refused _ _ := rfl
        ok _ hok := nomatch hok
        faulted _ hfault := nomatch hfault
        quiet _ hmem := nomatch hmem }
  | ok a =>
    have hin := h a
    dsimp only [given, ofLogged, ofOutcome]
    cases hvalue : (read a).value with
    | ok b =>
      rw [hin.ok b hvalue]
      exact
        { refused _ hrefused := nomatch hrefused
          ok _ _ := rfl
          faulted _ hfault := nomatch hfault
          quiet := hin.quiet }
    | error fault =>
      obtain ⟨report, hreport, heq⟩ := hin.error fault hvalue
      rw [heq]
      exact
        { refused _ hrefused := nomatch hrefused
          ok _ hok := nomatch hok
          faulted _ _ := ⟨report, hreport, rfl⟩
          quiet := hin.quiet }

namespace Session

/-- The entry points follow the checked reads in a session, for every operand that a client can name. The configuration
is the one in force at the call. -/
structure EntryPointsFollowReads (s : Session) : Prop where
  addresses : Native.FollowsReads s.heap s.config.walkBound
  vector : ∀ header, (s.ask (.nativeVector header)).Follows "objlayout_dispatch_vector" (.vectorName .null)
    (s.ask (.readVector header))
  implements : ∀ vector name, (s.ask (.nativeImplements vector (some name))).Follows "objlayout_implements_interface"
    (.flag false) (s.ask (.readImplements vector name))
  nullName : ∀ vector address, s.vector vector = .ok address →
    ∃ report, Event.IsViolation "objlayout_implements_interface" report ∧
      s.ask (.nativeImplements vector none) = ⟨.ok (.flag false), [report]⟩
  length : ∀ array, (s.ask (.nativeLength array)).Follows "objlayout_array_length" (.length (-1))
    (s.ask (.readLength array))
  data : ∀ array, (s.ask (.nativeData array)).Follows "objlayout_array_data" (.memory none) (s.ask (.readData array))
  characters : ∀ string, (s.ask (.nativeCharacters string)).Follows "objlayout_string_characters" (.arrayName .null)
    (s.ask (.readCharacters string))

/-- The entry points for native code follow the checked reads: for all addresses over the heap of any session, under the
configuration in force, and for every operand of a client. A null vector, null characters and a negative length tell a
failure of the read; null data tells one too, unless an array without memory has no negative length. -/
theorem entryPoints_followReads (s : Session) : s.EntryPointsFollowReads where
  addresses := Native.followsReads s.heap s.config.walkBound
  vector _ := Response.follows_given Native.standsIn_dispatchVector
  implements _ name :=
    Response.follows_given fun vector => Native.standsIn_implementsInterface s.heap s.config.walkBound vector name
  nullName vector address h := by
    refine ⟨_, Event.isViolation_violation .implementsInterface, ?_⟩
    rw [ask, h]
    rfl
  length _ := Response.follows_given (Native.standsIn_arrayLength s.heap)
  data _ := Response.follows_given (Native.standsIn_arrayData s.heap)
  characters _ := Response.follows_given Native.standsIn_stringCharacters

end Session

end ObjectModel
