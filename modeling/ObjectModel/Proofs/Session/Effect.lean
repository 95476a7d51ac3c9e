import ObjectModel.Proofs.Class.LoadAll
import ObjectModel.Proofs.Instance.Created
import ObjectModel.Proofs.Response
import ObjectModel.Proofs.Session.Origin
import ObjectModel.Session.Run

/-!
# What commands do

The effect of a command that succeeds, said once for every command: which parts of the session change, what they change
to, and what is known of the operands then. All else that a session keeps over a command is derived from this.
-/

namespace ObjectModel

namespace Session

open Response

/-- What a command that succeeds makes of a session. -/
inductive Effect (s : Session) : Command → Session → Prop
  | install {config : Config} {slot : ConfigSlot} (hslot : s.slot.install? config = some slot) :
      Effect s (.install config) { s with slot }
  | replace (config : Config) : Effect s (.replace config) { s with slot := s.slot.replace config }
  | newTable : Effect s .newTable (s.addTable s.heap .empty)
  | newBuiltinTable {built : Heap × ClassTable}
      (hbuilt : (ClassTable.withBuiltins s.config.walkBound s.heap).value = .ok built) :
      Effect s .newBuiltinTable (s.addTable built.1 built.2)
  | cloneTable {handle number : Nat} (hnumber : s.tableOf? handle = some number) :
      Effect s (.cloneTable handle) { s with handles := s.handles ++ [some number] }
  | dropTable {handle number : Nat} (hnumber : s.tableOf? handle = some number) (hforeign : s.hasForeignHeaders = false)
      (hunused : ∀ owned ∈ s.liveInstances, handle ∉ owned.through) :
      Effect s (.dropTable handle) { s with handles := s.handles.set handle none }
  | load {handle number : Nat} {definition : ClassDefinition} {table : ClassTable} {loaded : Loaded}
      (hnumber : s.tableOf? handle = some number) (htable : s.tables[number]? = some table)
      (hload : (table.load s.config.walkBound s.heap definition).value = .ok loaded) :
      Effect s (.load handle definition) (s.setTable number loaded.heap loaded.table)
  | linkClass (interfaces : List CString) (payload : Payload) :
      Effect s (.linkClass interfaces payload)
        { s with
          heap := (StandaloneClass.link s.heap interfaces payload).1
          standalone := s.standalone ++ [(StandaloneClass.link s.heap interfaces payload).2] }
  | makeNodes {nodes : List HandmadeNode} {linked : List InterfaceNode} {fresh : List NodeId}
      (hlinked : ∀ node ∈ linked, ∀ id, node.next = some id → id ∈ s.nodes ++ fresh)
      (hfresh : ∀ id ∈ fresh, id.index < s.heap.nodes.size + linked.length) :
      Effect s (.makeNodes nodes) { s with heap := s.heap.addNodes linked, nodes := s.nodes ++ fresh }
  | makeVector {head : Option Nat} {hasMetadata : Bool} {vector : DispatchVector}
      (hhead : ∀ id, vector.head = some id → id ∈ s.nodes) :
      Effect s (.makeVector head hasMetadata)
        { s with heap := (s.heap.addVector vector).1, vectors := s.vectors ++ [(s.heap.addVector vector).2] }
  | makeObject {vector : VectorOperand} {place : Option VectorId} (hplace : s.vector vector = .ok place) :
      Effect s (.makeObject vector) { s with objects := s.objects ++ [⟨place⟩] }
  | makeArray {vector : VectorOperand} {place : Option VectorId} {length : Int32} {element : ElementType}
      {data : Option (List element.Value)} (hplace : s.vector vector = .ok place)
      (hlength : length.toInt ≤ (data.getD []).length) :
      Effect s (.makeArray vector length element data)
        { s with
          heap := (s.heap.addArray ⟨place, length, element, data⟩).1
          arrays := s.arrays ++ [(s.heap.addArray ⟨place, length, element, data⟩).2] }
  | makeString {vector : VectorOperand} {place : Option VectorId} {characters : ArrayOperand} {array : Option ArrayId}
      (hplace : s.vector vector = .ok place) (harray : s.array characters = .ok array) :
      Effect s (.makeString vector characters) { s with strings := s.strings ++ [⟨place, array⟩] }
  | create {c : Command} {creation : Creation} {made : Heap × Instance} {through : List Nat}
      (hcreation : s.creation? c = some creation)
      (hcreated : Instance.Created s.heap creation.ofClass.loaded creation.charactersClass made) :
      Effect s c (s.addInstance made.1 made.2 through)
  | dropInstance {i : Nat} {value : Instance} (hlive : s.instance? i = some value)
      (hforeign : s.hasForeignHeaders = false) :
      Effect s (.dropInstance i) { s with instances := s.instances.set i none }

variable {s next : Session} {a : Answer}

section Attempt

/-- A change that makes something leads to the given session. -/
theorem makes_eq_ok {what : Made} {t : Session} (h : (makes t what).result = .ok (next, a)) : next = t := by
  cases h
  rfl

/-- A load succeeds exactly when its handle stands for a table that accepts the definition. -/
theorem load_result_eq_ok_iff {handle : Nat} {definition : ClassDefinition} :
    (s.load handle definition).result = .ok (next, a) ↔
      ∃ number table loaded, s.tableOf? handle = some number ∧ s.tables[number]? = some table ∧
        (table.load s.config.walkBound s.heap definition).value = .ok loaded ∧
        s.setTable number loaded.heap loaded.table = next ∧ .loaded loaded.newest.info.id = a := by
  simp only [load, result_given_eq_ok_iff, result_ofOutcome_eq_ok_iff, orRefuse_eq_ok_iff, Prod.mk.injEq]
  constructor
  · rintro ⟨number, hnumber, table, htable, loaded, hload, hnext, ha⟩
    exact ⟨number, table, loaded, hnumber, htable, hload, hnext, ha⟩
  · rintro ⟨number, table, loaded, hnumber, htable, hload, hnext, ha⟩
    exact ⟨number, hnumber, table, htable, loaded, hload, hnext, ha⟩

/-- The address that a number stands for is a known one. -/
theorem mem_of_nodeAddress {known : List NodeId} {place : Option Nat} {address : Option NodeId}
    (h : nodeAddress known.toArray place = .ok address) : ∀ id, address = some id → id ∈ known := by
  intro id hid
  cases place with
  | none =>
    cases h
    cases hid
  | some i =>
    obtain ⟨found, hfound, hsome⟩ := map_eq_ok_iff.mp h
    cases hsome.trans hid
    rw [orRefuse_eq_ok_iff, List.getElem?_toArray] at hfound
    exact List.mem_of_getElem? hfound

/-- Making nodes adds nodes that lead to known ones or to each other. -/
theorem effect_makeNodes {nodes : List HandmadeNode} (h : (s.makeNodes nodes).result = .ok (next, a)) :
    s.Effect (.makeNodes nodes) next := by
  obtain ⟨linked, hlinked, hmade⟩ := result_given_eq_ok_iff.mp h
  cases makes_eq_ok hmade
  refine .makeNodes (fun node hnode => ?_) (fun id hid => ?_)
  · obtain ⟨source, -, hsource⟩ := exists_mem_of_mapM_eq_ok hlinked hnode
    obtain ⟨address, haddress, rfl⟩ := map_eq_ok_iff.mp hsource
    exact mem_of_nodeAddress haddress
  · obtain ⟨i, hi, rfl⟩ := List.mem_map.mp hid
    rw [← (forall₂_of_mapM_eq_ok hlinked).length_eq]
    exact Nat.add_lt_add_left (List.mem_range.mp hi) _

/-- Adding what creation gave has the effect of creating an instance. -/
theorem effect_created {c : Command} {result : Except Fault (Heap × Instance)} {through : List Nat}
    (hcreated : ∀ made, result = .ok made → ∃ creation, s.creation? c = some creation ∧
      Instance.Created s.heap creation.ofClass.loaded creation.charactersClass made)
    (h : (s.created result through).result = .ok (next, a)) : s.Effect c next := by
  obtain ⟨made, hmade, heq⟩ := result_ofOutcome_eq_ok_iff.mp h
  cases heq
  obtain ⟨creation, hcreation, hspec⟩ := hcreated made hmade
  exact .create hcreation hspec

/-- A command that succeeds has its effect. -/
theorem effect_of_attempt {c : Command} (h : (s.attempt c).result = .ok (next, a)) : s.Effect c next := by
  cases c with
  | install config =>
    simp only [attempt] at h
    split at h
    · next slot hslot =>
      cases h
      exact .install hslot
    · cases h
  | replace config =>
    cases h
    exact .replace config
  | newTable =>
    cases makes_eq_ok h
    exact .newTable
  | newBuiltinTable =>
    obtain ⟨built, hbuilt, heq⟩ := result_ofOutcome_eq_ok_iff.mp h
    cases heq
    exact .newBuiltinTable hbuilt
  | cloneTable handle =>
    obtain ⟨number, hnumber, hmade⟩ := result_given_eq_ok_iff.mp h
    cases makes_eq_ok hmade
    exact .cloneTable (orRefuse_eq_ok_iff.mp hnumber)
  | dropTable handle =>
    obtain ⟨number, hnumber, hdropped⟩ := result_given_eq_ok_iff.mp h
    split at hdropped
    · cases hdropped
    · next hfree =>
      cases hdropped
      rw [Bool.or_eq_true, not_or, Bool.not_eq_true] at hfree
      refine .dropTable (orRefuse_eq_ok_iff.mp hnumber) hfree.1 fun owned howned hthrough => hfree.2 ?_
      exact List.any_eq_true.mpr ⟨owned, howned, List.contains_iff_mem.mpr hthrough⟩
  | load handle definition =>
    obtain ⟨number, table, loaded, hnumber, htable, hload, rfl, -⟩ := load_result_eq_ok_iff.mp h
    exact .load hnumber htable hload
  | linkClass interfaces payload =>
    cases makes_eq_ok h
    exact .linkClass interfaces payload
  | makeNodes nodes => exact effect_makeNodes h
  | makeVector head hasMetadata =>
    obtain ⟨place, hplace, hmade⟩ := result_given_eq_ok_iff.mp h
    cases makes_eq_ok hmade
    exact .makeVector (mem_of_nodeAddress hplace)
  | makeObject vector =>
    obtain ⟨place, hplace, hmade⟩ := result_given_eq_ok_iff.mp h
    cases makes_eq_ok hmade
    exact .makeObject hplace
  | makeArray vector length element data =>
    obtain ⟨place, hplace, hmade⟩ := result_given_eq_ok_iff.mp h
    dsimp only at hmade
    split at hmade
    · cases hmade
    · next hlength =>
      cases makes_eq_ok hmade
      exact .makeArray hplace (Int.not_lt.mp hlength)
  | makeString vector characters =>
    obtain ⟨place, hplace, hplaced⟩ := result_given_eq_ok_iff.mp h
    obtain ⟨array, harray, hmade⟩ := result_given_eq_ok_iff.mp hplaced
    cases makes_eq_ok hmade
    exact .makeString hplace harray
  | newObject operand =>
    obtain ⟨c, hc, hcreated⟩ := result_given_eq_ok_iff.mp h
    obtain ⟨number, horigin⟩ := classOf_eq_ok_iff.mp hc
    apply effect_created _ hcreated
    intro made hmade
    obtain ⟨value, hvalue, rfl⟩ := map_eq_ok_iff.mp hmade
    exact ⟨_, Option.map_eq_some_iff.mpr ⟨_, horigin, rfl⟩, Instance.created_newObject _ hvalue⟩
  | newArray operand element values =>
    obtain ⟨c, hc, hcreated⟩ := result_given_eq_ok_iff.mp h
    obtain ⟨number, horigin⟩ := classOf_eq_ok_iff.mp hc
    apply effect_created _ hcreated
    intro made hmade
    exact ⟨_, Option.map_eq_some_iff.mpr ⟨_, horigin, rfl⟩, Instance.created_newArray hmade⟩
  | newString operand charactersOperand text e =>
    obtain ⟨c, hc, hfound⟩ := result_given_eq_ok_iff.mp h
    obtain ⟨chars, hchars, hcreated⟩ := result_given_eq_ok_iff.mp hfound
    obtain ⟨number, horigin⟩ := classOf_eq_ok_iff.mp hc
    obtain ⟨charsNumber, hcharsOrigin⟩ := classOf_eq_ok_iff.mp hchars
    apply effect_created _ hcreated
    intro made hmade
    exact ⟨⟨_, _⟩, stringCreation?_eq_some_iff.mpr ⟨horigin, _, hcharsOrigin, rfl⟩, Instance.created_newString hmade⟩
  | newStringIn handle text =>
    obtain ⟨table, htable, hcreated⟩ := result_given_eq_ok_iff.mp h
    obtain ⟨number, hnumber, hfound⟩ := table_eq_ok_iff.mp htable
    apply effect_created _ hcreated
    intro made hmade
    obtain ⟨c, chars, hc, hchars, hnew⟩ := Instance.newStringIn_eq_ok_iff.mp hmade
    have horigin : ∀ {name : String} {c : LoadedClass}, table.byString? name = some c →
        s.origin? (.byString handle name) = some ⟨number, c⟩ :=
      fun hlookup => origin?_eq_some_iff.mpr ⟨hnumber, table, hfound, hlookup⟩
    exact ⟨⟨_, _⟩, stringCreation?_eq_some_iff.mpr ⟨horigin hc, _, horigin hchars, rfl⟩,
      Instance.created_newString hnew⟩
  | dropInstance i =>
    obtain ⟨value, hvalue, hdropped⟩ := result_given_eq_ok_iff.mp h
    split at hdropped
    · cases hdropped
    · next hforeign =>
      cases hdropped
      exact .dropInstance (orRefuse_eq_ok_iff.mp hvalue) (Bool.eq_false_iff.mpr hforeign)

end Attempt

end Session

end ObjectModel
