import ObjectModel.Proofs.Class.Table
import ObjectModel.Proofs.Result
import ObjectModel.Session.Command

/-!
# The classes that a session knows

Classes belong to tables, and a class operand names a class of the table behind its handle. An instance is created for
the class that its operand names then, and a string also for a class of its characters.
-/

namespace ObjectModel

/-- A class with the number of its table. -/
structure TableClass where
  table : Nat
  loaded : LoadedClass
  deriving DecidableEq

/-- What an instance is created for: its class, and for a string the class of its characters. -/
structure Creation where
  ofClass : TableClass
  characters : Option TableClass
  deriving DecidableEq

/-- The class of the characters of what is created, if it has characters. -/
def Creation.charactersClass (creation : Creation) : Option LoadedClass :=
  creation.characters.map TableClass.loaded

/-- What is there or a refusal is a value exactly when the value is there. -/
theorem orRefuse_eq_ok_iff {α : Type} {refusal : Refusal} {operand : Option α} {a : α} :
    orRefuse refusal operand = .ok a ↔ operand = some a := by
  cases operand with
  | none => simp [orRefuse]
  | some b => simp [orRefuse]

namespace Session

/-- The class is in its table. -/
def Has (s : Session) (origin : TableClass) : Prop :=
  ∃ table, s.tables[origin.table]? = some table ∧ origin.loaded ∈ table.classes

/-- The classes that something was created for are in their tables. -/
def Knows (s : Session) (creation : Creation) : Prop :=
  s.Has creation.ofClass ∧ ∀ characters, creation.characters = some characters → s.Has characters

/-- The class that a class operand names, with its table. -/
def origin? (s : Session) (operand : ClassOperand) : Option TableClass :=
  (s.tableOf? operand.handle).bind fun number =>
    (s.tables[number]?.bind operand.lookup?).map fun c => ⟨number, c⟩

/-- What a string is created for when operands name its class and that of its characters. -/
def stringCreation? (s : Session) (operand charactersOperand : ClassOperand) : Option Creation :=
  (s.origin? operand).bind fun ofClass => (s.origin? charactersOperand).map fun characters => ⟨ofClass, some characters⟩

/-- What a command creates an instance for, if it creates one. -/
def creation? (s : Session) : Command → Option Creation
  | .newObject operand => (s.origin? operand).map fun ofClass => ⟨ofClass, none⟩
  | .newArray operand _ _ => (s.origin? operand).map fun ofClass => ⟨ofClass, none⟩
  | .newString operand charactersOperand _ _ => s.stringCreation? operand charactersOperand
  | .newStringIn handle _ =>
    s.stringCreation? (.byString handle stringClassName)
      (.byString handle s.config.encoding.elementType.arrayDescriptor)
  | _ => none

variable {s : Session}

/-- A handle stands for a table exactly when it stands for the number of one that is there. -/
theorem table_eq_ok_iff {handle : Nat} {table : ClassTable} :
    s.table handle = .ok table ↔ ∃ number, s.tableOf? handle = some number ∧ s.tables[number]? = some table := by
  rw [Session.table, orRefuse_eq_ok_iff, table?, Option.bind_eq_some_iff]

/-- A class operand is given by a number of a table and what the lookup finds there. -/
theorem origin?_eq_some_iff {operand : ClassOperand} {origin : TableClass} :
    s.origin? operand = some origin ↔
      s.tableOf? operand.handle = some origin.table ∧
        ∃ table, s.tables[origin.table]? = some table ∧ operand.lookup? table = some origin.loaded := by
  obtain ⟨number, c⟩ := origin
  simp only [origin?, Option.bind_eq_some_iff, Option.map_eq_some_iff, TableClass.mk.injEq]
  constructor
  · rintro ⟨_, hnumber, _, hfound, rfl, rfl⟩
    exact ⟨hnumber, hfound⟩
  · rintro ⟨hnumber, hfound⟩
    exact ⟨number, hnumber, c, hfound, rfl, rfl⟩

/-- A class operand names a class exactly when it does so with some table. -/
theorem classOf_eq_ok_iff {operand : ClassOperand} {c : LoadedClass} :
    s.classOf operand = .ok c ↔ ∃ number, s.origin? operand = some ⟨number, c⟩ := by
  simp only [origin?_eq_some_iff]
  rw [classOf, findClass]
  constructor
  · intro h
    cases htable : s.table operand.handle with
    | error refusal =>
      rw [htable] at h
      cases h
    | ok table =>
      rw [htable] at h
      obtain ⟨number, hnumber, hfound⟩ := table_eq_ok_iff.mp htable
      exact ⟨number, hnumber, table, hfound, orRefuse_eq_ok_iff.mp h⟩
  · rintro ⟨number, hnumber, table, hfound, hlookup⟩
    rw [table_eq_ok_iff.mpr ⟨number, hnumber, hfound⟩]
    exact orRefuse_eq_ok_iff.mpr hlookup

/-- A lookup finds a class of the table. -/
theorem mem_classes_of_lookup? {table : ClassTable} {operand : ClassOperand} {c : LoadedClass}
    (h : operand.lookup? table = some c) : c ∈ table.classes := by
  cases operand with
  | byId handle id => exact ClassTable.mem_classes_iff.mpr ⟨id, h⟩
  | byString handle text =>
    obtain ⟨name, -, hname⟩ := Option.bind_eq_some_iff.mp h
    exact ClassTable.mem_classes_of_byName? hname
  | byName handle name => exact ClassTable.mem_classes_of_byName? h

/-- The class that an operand names is in its table. -/
theorem has_of_origin? {operand : ClassOperand} {origin : TableClass} (h : s.origin? operand = some origin) :
    s.Has origin := by
  obtain ⟨-, table, htable, hlookup⟩ := origin?_eq_some_iff.mp h
  exact ⟨table, htable, mem_classes_of_lookup? hlookup⟩

/-- A string is created for the classes that both operands name. -/
theorem stringCreation?_eq_some_iff {operand charactersOperand : ClassOperand} {creation : Creation} :
    s.stringCreation? operand charactersOperand = some creation ↔
      s.origin? operand = some creation.ofClass ∧
        ∃ characters, s.origin? charactersOperand = some characters ∧ creation.characters = some characters := by
  obtain ⟨ofClass, characters⟩ := creation
  simp only [stringCreation?, Option.bind_eq_some_iff, Option.map_eq_some_iff, Creation.mk.injEq]
  constructor
  · rintro ⟨_, hclass, found, hcharacters, rfl, rfl⟩
    exact ⟨hclass, found, hcharacters, rfl⟩
  · rintro ⟨hclass, found, hcharacters, rfl⟩
    exact ⟨ofClass, hclass, found, hcharacters, rfl, rfl⟩

/-- Strings are created for classes that are in their tables. -/
theorem knows_of_stringCreation? {operand charactersOperand : ClassOperand} {creation : Creation}
    (h : s.stringCreation? operand charactersOperand = some creation) : s.Knows creation := by
  obtain ⟨hclass, found, hfound, hcharacters⟩ := stringCreation?_eq_some_iff.mp h
  refine ⟨has_of_origin? hclass, fun characters hsame => ?_⟩
  cases hcharacters.symm.trans hsame
  exact has_of_origin? hfound

/-- Instances are created for classes that are in their tables. -/
theorem knows_of_creation? {c : Command} {creation : Creation} (h : s.creation? c = some creation) :
    s.Knows creation := by
  have hsingle : ∀ {operand : ClassOperand},
      (s.origin? operand).map (fun ofClass => (⟨ofClass, none⟩ : Creation)) = some creation → s.Knows creation := by
    intro operand hmap
    obtain ⟨ofClass, hclass, rfl⟩ := Option.map_eq_some_iff.mp hmap
    exact ⟨has_of_origin? hclass, fun _ hnone => nomatch hnone⟩
  cases c with
  | newObject operand => exact hsingle h
  | newArray operand element values => exact hsingle h
  | newString operand charactersOperand text e => exact knows_of_stringCreation? h
  | newStringIn handle text => exact knows_of_stringCreation? h
  | _ => cases h

end Session

end ObjectModel
