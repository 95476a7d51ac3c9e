import ObjectModel.Encoding.Basic

/-!
# Configuration

The two settings of the object model, and the slot that holds the installed configuration. The slot starts
empty. Installing fills an empty slot and is refused by a full one; replacing always takes effect.
-/

namespace ObjectModel

/-- The settings: how strings are encoded, and how many nodes of an interface list may be visited. -/
structure Config where
  encoding : Encoding
  walkBound : Nat
  deriving DecidableEq, Repr

namespace Config

/-- The largest number of interfaces that a class file can declare. -/
def standardBound : Nat :=
  65535

/-- UTF-16, and as many interfaces as a class file can declare. -/
def standard : Config :=
  ⟨.utf16, standardBound⟩

/-- The configuration in descriptions. -/
def describe (config : Config) : String :=
  Text.describeRecord "LayoutConfig"
    [("string_encoding", config.encoding.describe), ("max_interface_chain", Text.describeNat config.walkBound)]

end Config

/-- The place of the installed configuration. -/
structure ConfigSlot where
  installed : Option Config
  deriving DecidableEq, Repr

namespace ConfigSlot

/-- The slot before anything is installed. -/
def empty : ConfigSlot :=
  ⟨none⟩

/-- The configuration in force. -/
def current (slot : ConfigSlot) : Config :=
  slot.installed.getD .standard

/-- Fills an empty slot. -/
def install? (slot : ConfigSlot) (config : Config) : Option ConfigSlot :=
  match slot.installed with
  | none => some ⟨some config⟩
  | some _ => none

/-- Puts a configuration in place of whatever is installed. -/
def replace (_slot : ConfigSlot) (config : Config) : ConfigSlot :=
  ⟨some config⟩

/-- An empty slot means the standard configuration. -/
@[simp] theorem current_empty : empty.current = .standard := rfl

/-- What was put in place is in force. -/
@[simp] theorem current_replace (slot : ConfigSlot) (config : Config) : (slot.replace config).current = config := rfl

/-- Installing succeeds exactly on an empty slot, and what was installed is in force. -/
theorem install?_eq_some_iff {slot next : ConfigSlot} {config : Config} :
    slot.install? config = some next ↔ slot.installed = none ∧ next = ⟨some config⟩ := by
  unfold install?
  split <;> simp_all [eq_comm]

end ConfigSlot

end ObjectModel
