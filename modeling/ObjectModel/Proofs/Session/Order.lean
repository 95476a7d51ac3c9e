import ObjectModel.Proofs.Class.Order
import ObjectModel.Proofs.Session.Loads
import ObjectModel.Proofs.Session.Perform
import ObjectModel.Proofs.Session.Preserved

/-!
# Loads of differently named classes commute

Definitions of different names are loaded one after the other. Whatever their order, the same of them are loaded, the
others are refused for the same fault, and each name leads to a class of which the same can be seen. Only the ids
tell the order: each is the number of the classes before the first of the loads and of the definitions accepted
since.
-/

namespace ObjectModel

/-- Whether a request was granted. -/
def Response.isGranted {α : Type} (response : Response α) : Bool :=
  response.result.toOption.isSome

namespace Session

/-- The requests to load definitions through a handle, one after the other. -/
def loadRequests (handle : Nat) (definitions : List ClassDefinition) : List Request :=
  definitions.map fun definition => .command (.load handle definition)

/-- The table has grown by the definitions that were granted: each has a class with the id that was answered, which is the
number of classes before and of those that were loaded ahead of it, and the classes before are those that were there. -/
structure GrownBy (table : ClassTable) (definitions : List ClassDefinition) (responses : List (Response Answer))
    (later : ClassTable) : Prop where
  size : later.size = table.size + responses.countP Response.isGranted
  stays : ∀ text c, table.byString? text = some c → later.byString? text = some c
  granted : ∀ (i : Nat) definition response answer, definitions[i]? = some definition → responses[i]? = some response →
    response.result = .ok answer →
      let id : ClassId := ⟨table.size + (responses.take i).countP Response.isGranted⟩
      answer = .loaded id ∧ ∃ c, later.byString? definition.name = some c ∧ c.info.id = id

/-- Loading definitions through a handle comes to the same in two orders, but for the ids. -/
structure LoadsCommute (s : Session) (handle : Nat) (table : ClassTable) (definitions permuted : List ClassDefinition) :
    Prop where
  /-- A definition is granted in both orders, or it is refused in both with the same fault and the same events. -/
  responses : ∀ (i j : Nat) definition, definitions[i]? = some definition → permuted[j]? = some definition →
    ∃ response other, (s.run (loadRequests handle definitions)).2[i]? = some response ∧
      (s.run (loadRequests handle permuted)).2[j]? = some other ∧
      (((∃ answer, response.result = .ok answer) ∧ ∃ answer, other.result = .ok answer) ∨
        (∃ fault, response.result = .error (.faulted fault)) ∧ other = response)
  /-- The tables have one size, and each name leads to classes of which the same can be seen but the ids. -/
  tables : ∃ later other, (s.run (loadRequests handle definitions)).1.table handle = .ok later ∧
    (s.run (loadRequests handle permuted)).1.table handle = .ok other ∧ later.size = other.size ∧
    (∀ text id, (later.byString? text).map (fun c =>
        (c.image (s.run (loadRequests handle definitions)).1.heap).numbered id) =
      (other.byString? text).map fun c => (c.image (s.run (loadRequests handle permuted)).1.heap).numbered id) ∧
    GrownBy table definitions (s.run (loadRequests handle definitions)).2 later ∧
    GrownBy table permuted (s.run (loadRequests handle permuted)).2 other

open Response

variable {s : Session} {handle number : Nat} {table : ClassTable} {accepted definitions : List ClassDefinition}

/-- A load is answered as the definitions that the table holds say, and adds its definition to them if they accept it. -/
theorem perform_load_of_represents (hnumber : s.tableOf? handle = some number) (htable : s.tables[number]? = some table)
    (h : table.Represents s.heap accepted) (definition : ClassDefinition) :
    let next := (s.perform (.command (.load handle definition))).1
    (s.perform (.command (.load handle definition))).2 =
        ofOutcome (definition.verdict s.config.walkBound accepted) (fun info => .loaded info.id) ∧
      next.config = s.config ∧ next.tableOf? handle = some number ∧ ∃ later, next.tables[number]? = some later ∧
        later.Represents next.heap
          (accepted ++ [definition].filter (·.isAccepted s.config.walkBound accepted)) := by
  have hevents := h.events_load s.config.walkBound definition
  rcases h.load_cases s.config.walkBound definition with
    ⟨fault, hverdict, hload⟩ | ⟨info, loaded, hverdict, hload, rfl, hrepresents⟩
  · have hrefused : definition.isAccepted s.config.walkBound accepted = false := by
      rw [ClassDefinition.isAccepted, hverdict]
      rfl
    rw [perform_load_of_error hnumber htable hload, ofOutcome, hverdict, hevents]
    refine ⟨rfl, rfl, hnumber, table, htable, ?_⟩
    rw [List.filter_singleton, hrefused, cond_false, List.append_nil]
    exact h
  · have hgranted : definition.isAccepted s.config.walkBound accepted = true := by
      rw [ClassDefinition.isAccepted, hverdict]
      rfl
    rw [perform_load_of_ok hnumber htable hload, ofOutcome, hverdict, hevents]
    refine ⟨rfl, rfl, hnumber, loaded.table, List.getElem?_set_self (List.getElem?_eq_some_iff.mp htable).1, ?_⟩
    rw [List.filter_singleton, hgranted, cond_true]
    exact hrepresents

/-- A request is granted exactly when its operation succeeds. -/
theorem isGranted_ofOutcome {α β : Type} (outcome : Outcome α) (f : α → β) :
    (ofOutcome outcome f).isGranted = outcome.value.toOption.isSome := by
  rw [isGranted, ofOutcome]
  cases outcome.value <;> rfl

/-- A request that was granted has an answer. -/
theorem exists_result_of_isGranted {α : Type} {response : Response α} (h : response.isGranted = true) :
    ∃ answer, response.result = .ok answer := by
  rw [isGranted] at h
  cases hresult : response.result with
  | error failure =>
    rw [hresult] at h
    cases h
  | ok answer => exact ⟨answer, rfl⟩

/-- Definitions of different names that are loaded one after the other are answered as those that the table held and those
accepted ahead say, and the table holds the accepted ones in the end. Which are accepted is decided at the start. -/
theorem run_loadRequests (hnumber : s.tableOf? handle = some number) (htable : s.tables[number]? = some table)
    (h : table.Represents s.heap accepted) (hnames : (definitions.map ClassDefinition.name).Nodup) :
    let final := s.run (loadRequests handle definitions)
    let accepts := ClassDefinition.isAccepted s.config.walkBound accepted
    (final.1.tableOf? handle = some number ∧ ∃ later, final.1.tables[number]? = some later ∧
        later.Represents final.1.heap (accepted ++ definitions.filter accepts)) ∧
      final.2.map Response.isGranted = definitions.map accepts ∧
      ∀ (i : Nat) definition, definitions[i]? = some definition → final.2[i]? =
        some (ofOutcome (definition.verdict s.config.walkBound (accepted ++ (definitions.take i).filter accepts))
          fun info => .loaded info.id) := by
  induction definitions generalizing s table accepted with
  | nil =>
    refine ⟨⟨hnumber, table, htable, ?_⟩, rfl, fun i definition hi => ?_⟩
    · rw [List.filter_nil, List.append_nil]
      exact h
    · rw [List.getElem?_nil] at hi
      cases hi
  | cons first rest ih =>
    obtain ⟨hfresh, hrestNames⟩ := List.nodup_cons.mp hnames
    obtain ⟨hresponse, hconfig, hnextNumber, grown, hgrown, hrepresents⟩ :=
      perform_load_of_represents hnumber htable h first
    -- What was accepted first has another name than the rest, so it makes no difference to which of these are accepted.
    have hsame : ∀ other ∈ rest, other.isAccepted s.config.walkBound
        (accepted ++ [first].filter (·.isAccepted s.config.walkBound accepted)) =
          other.isAccepted s.config.walkBound accepted := by
      intro other hother
      apply ClassDefinition.isAccepted_append
      intro hmem
      obtain ⟨found, hfound, hname⟩ := List.mem_map.mp hmem
      cases List.mem_singleton.mp (List.mem_of_mem_filter hfound)
      exact hfresh (hname ▸ List.mem_map_of_mem hother)
    have hfilter : ∀ others ⊆ rest, [first].filter (·.isAccepted s.config.walkBound accepted) ++
        others.filter (·.isAccepted s.config.walkBound
          (accepted ++ [first].filter (·.isAccepted s.config.walkBound accepted))) =
        (first :: others).filter (·.isAccepted s.config.walkBound accepted) := by
      intro others hsubset
      rw [List.filter_congr fun other hother => hsame other (hsubset hother), ← List.filter_append]
      rfl
    obtain ⟨⟨hlaterNumber, later, hlater, hheld⟩, hgranted, hresponses⟩ :=
      ih hnextNumber hgrown hrepresents hrestNames
    rw [hconfig] at hheld hgranted hresponses
    refine ⟨⟨hlaterNumber, later, hlater, ?_⟩, ?_, fun i definition hi => ?_⟩
    · rw [List.append_assoc, hfilter rest (List.Subset.refl rest)] at hheld
      exact hheld
    · rw [List.map_congr_left hsame] at hgranted
      exact congrArg₂ List.cons (hresponse ▸ isGranted_ofOutcome _ _) hgranted
    · cases i with
      | zero =>
        cases hi
        rw [List.take_zero, List.filter_nil, List.append_nil]
        exact congrArg some hresponse
      | succ i =>
        have hrest := hresponses i definition hi
        rw [List.append_assoc, hfilter _ (List.take_subset i rest)] at hrest
        exact hrest

/-- Of requests that are granted when their definitions are accepted, as many are granted as definitions are accepted. -/
theorem countP_isGranted {responses : List (Response Answer)} {accepts : ClassDefinition → Bool}
    (h : responses.map Response.isGranted = definitions.map accepts) :
    responses.countP Response.isGranted = (definitions.filter accepts).length :=
  calc
    responses.countP Response.isGranted = (responses.map Response.isGranted).countP id := by
      rw [List.countP_map, Function.id_comp]
    _ = (definitions.map accepts).countP id := by rw [h]
    _ = (definitions.filter accepts).length := by
      rw [List.countP_map, Function.id_comp, List.countP_eq_length_filter]

/-- Which of the definitions are granted, and how the others are refused, does not depend on what is loaded ahead of
them. -/
theorem exists_response (hnumber : s.tableOf? handle = some number) (htable : s.tables[number]? = some table)
    (h : table.Represents s.heap accepted) (hnames : (definitions.map ClassDefinition.name).Nodup) {i : Nat}
    {definition : ClassDefinition} (hi : definitions[i]? = some definition) :
    ∃ response, (s.run (loadRequests handle definitions)).2[i]? = some response ∧
      response.isGranted = definition.isAccepted s.config.walkBound accepted ∧
      (definition.isAccepted s.config.walkBound accepted = false → response =
        ofOutcome (definition.verdict s.config.walkBound accepted) fun info => .loaded info.id) := by
  obtain ⟨-, hgranted, hresponses⟩ := run_loadRequests hnumber htable h hnames
  have hresponse := hresponses i definition hi
  refine ⟨_, hresponse, ?_, fun hrefused => ?_⟩
  · have hsame := congrArg (·[i]?) hgranted
    rw [List.getElem?_map, List.getElem?_map, hresponse, hi] at hsame
    exact Option.some.inj hsame
  · rw [ClassDefinition.verdict_append hrefused]

/-- An entry that passes a filter is behind as many of those that pass as are ahead of it in the list. -/
theorem getElem?_filter_of_getElem? {definition : ClassDefinition} {accepts : ClassDefinition → Bool} {i : Nat}
    (hi : definitions[i]? = some definition) (haccepts : accepts definition = true) :
    (definitions.filter accepts)[((definitions.take i).filter accepts).length]? = some definition := by
  obtain ⟨hlt, rfl⟩ := List.getElem?_eq_some_iff.mp hi
  have hsplit : definitions.filter accepts =
      (definitions.take i).filter accepts ++ (definitions.drop i).filter accepts := by
    rw [← List.filter_append, List.take_append_drop]
  rw [hsplit, List.getElem?_append_right (Nat.le_refl _), Nat.sub_self, List.drop_eq_getElem_cons hlt,
    List.filter_cons_of_pos haccepts]
  rfl

/-- Loading definitions of different names makes the table grow by those that it accepts at the start. -/
theorem grownBy_run (hnumber : s.tableOf? handle = some number) (htable : s.tables[number]? = some table)
    (h : table.Represents s.heap accepted) (hnames : (definitions.map ClassDefinition.name).Nodup) :
    let final := s.run (loadRequests handle definitions)
    ∃ later, final.1.table handle = .ok later ∧ GrownBy table definitions final.2 later ∧
      later.Represents final.1.heap (accepted ++ definitions.filter (·.isAccepted s.config.walkBound accepted)) := by
  intro final
  obtain ⟨⟨hlaterNumber, later, hlater, hrepresents⟩, hgranted, hresponses⟩ :=
    run_loadRequests hnumber htable h hnames
  refine ⟨later, table_eq_ok_iff.mpr ⟨number, hlaterNumber, hlater⟩, ⟨?_, fun text c hc => ?_, ?_⟩, hrepresents⟩
  · rw [hrepresents.size, List.length_append, ← h.size, countP_isGranted hgranted]
  · obtain ⟨grown, hgrown, hahead⟩ := (grows_run s (loadRequests handle definitions)).tables number table htable
    cases hgrown.symm.trans hlater
    exact (h.keeps hrepresents hahead).byString text c hc
  · intro i definition response answer hdefinition hresponse hanswer
    cases hresponse.symm.trans (hresponses i definition hdefinition)
    obtain ⟨info, hinfo, rfl⟩ := result_ofOutcome_eq_ok_iff.mp hanswer
    have hbehind : definition.isAccepted s.config.walkBound
        (accepted ++ (definitions.take i).filter (·.isAccepted s.config.walkBound accepted)) = true := by
      rw [ClassDefinition.isAccepted, hinfo]
      rfl
    obtain ⟨_, hsame, hid⟩ := ClassDefinition.verdict_of_isAccepted hbehind
    cases hinfo.symm.trans hsame
    have hcount : (final.2.take i).countP Response.isGranted =
        ((definitions.take i).filter (·.isAccepted s.config.walkBound accepted)).length :=
      countP_isGranted (by rw [List.map_take, List.map_take, hgranted])
    rw [List.length_append, ← h.size, ← hcount] at hid
    have haccepted : definition.isAccepted s.config.walkBound accepted = true := by
      obtain ⟨hchecked, hnot⟩ := ClassDefinition.isAccepted_iff.mp hbehind
      rw [List.map_append, List.mem_append, not_or] at hnot
      exact ClassDefinition.isAccepted_iff.mpr ⟨hchecked, hnot.1⟩
    have hposition := getElem?_filter_of_getElem? hdefinition haccepted
    rw [← hcount] at hposition
    obtain ⟨c, -, hname, -, -, -, hcid, -⟩ := hrepresents.refines.found
      (table.size + (final.2.take i).countP Response.isGranted) definition (by
        rw [h.size, List.getElem?_append_right (Nat.le_add_right _ _), Nat.add_sub_cancel_left, hposition])
    exact ⟨congrArg Answer.loaded hid, c, hname, hcid⟩

/-- Definitions of different names are loaded into a table of a run with the same result in every order, but for the
ids of the classes. -/
theorem loads_commute (requests : List Request) {permuted : List ClassDefinition}
    (htable : (start.run requests).1.table handle = .ok table) (hpermuted : permuted.Perm definitions)
    (hnames : (definitions.map ClassDefinition.name).Nodup) :
    (start.run requests).1.LoadsCommute handle table definitions permuted := by
  obtain ⟨number, hnumber, hfound⟩ := table_eq_ok_iff.mp htable
  obtain ⟨accepted, h⟩ := represented_run requests number table hfound
  generalize (start.run requests).1 = s at hnumber hfound h
  have hpermutedNames : (permuted.map ClassDefinition.name).Nodup := (hpermuted.map _).nodup_iff.mpr hnames
  obtain ⟨later, hlater, hgrown, hrepresents⟩ := grownBy_run hnumber hfound h hnames
  obtain ⟨other, hother, hotherGrown, hotherRepresents⟩ := grownBy_run hnumber hfound h hpermutedNames
  have hheld : (accepted ++ definitions.filter (·.isAccepted s.config.walkBound accepted)).Perm
      (accepted ++ permuted.filter (·.isAccepted s.config.walkBound accepted)) :=
    (hpermuted.symm.filter _).append_left accepted
  refine ⟨fun i j definition hi hj => ?_, later, other, hlater, hother, ?_, ?_, hgrown, hotherGrown⟩
  · obtain ⟨response, hresponse, hgranted, hrefused⟩ := exists_response hnumber hfound h hnames hi
    obtain ⟨otherResponse, hotherResponse, hotherGranted, hotherRefused⟩ :=
      exists_response hnumber hfound h hpermutedNames hj
    refine ⟨response, otherResponse, hresponse, hotherResponse, ?_⟩
    cases hdecided : definition.isAccepted s.config.walkBound accepted with
    | true => exact .inl ⟨exists_result_of_isGranted (hgranted.trans hdecided),
        exists_result_of_isGranted (hotherGranted.trans hdecided)⟩
    | false =>
      obtain ⟨fault, hfault⟩ := ClassDefinition.verdict_of_not_isAccepted hdecided
      refine .inr ⟨⟨fault, ?_⟩, (hotherRefused hdecided).trans (hrefused hdecided).symm⟩
      rw [hrefused hdecided, result_ofOutcome_of_error hfault]
  · rw [hrepresents.size, hotherRepresents.size, hheld.length_eq]
  · exact fun text id => hrepresents.byString?_alike hotherRepresents hheld text id

/-- A loaded class, a class of two interfaces where one is allowed, and two that are accepted, forwards and backwards. -/
theorem loads_commute_reverse :
    let requests := [.command .newTable, .command (.load 0 (.object "A")), .command (.replace ⟨.utf16, 1⟩)]
    let definitions := [.object "A", .string "B", (ClassDefinition.object "C").implementsAll ["I", "J"],
      (ClassDefinition.object "D").implements "I"]
    ∃ table, (start.run requests).1.table 0 = .ok table ∧ definitions.reverse.Perm definitions ∧
      (definitions.map ClassDefinition.name).Nodup ∧
      (start.run requests).1.LoadsCommute 0 table definitions definitions.reverse :=
  ⟨_, rfl, List.reverse_perm _, by decide, loads_commute _ rfl (List.reverse_perm _) (by decide)⟩

/-- The order shows in the ids alone. -/
example :
    let ids := fun definitions => (start.run (.command .newTable :: loadRequests 0 definitions)).2.map
      fun response => response.result.toOption
    ids [.object "A", .object "", .string "B"] =
        [some (.made (.tableHandle 0)), some (.loaded ⟨0⟩), none, some (.loaded ⟨1⟩)] ∧
      ids [.string "B", .object "A", .object ""] =
        [some (.made (.tableHandle 0)), some (.loaded ⟨0⟩), some (.loaded ⟨1⟩), none] := by
  cbv

end Session

end ObjectModel
