import ObjectModel.Kind

/-!
# Faults

Why an operation of the object model fails. A fault is a cause with the values it is about; its kind, the
message of that kind and the attached details follow from the cause.
-/

namespace ObjectModel

/-- The kinds of faults that callers tell apart. -/
inductive FaultKind where
  | invalidReference
  | invalidArgument
  | malformedMetadata
  | duplicateClass
  | elementTypeMismatch
  | invalidEncoding
  deriving DecidableEq, Repr

namespace FaultKind

/-- All kinds, in order. -/
def all : List FaultKind :=
  [.invalidReference, .invalidArgument, .malformedMetadata, .duplicateClass, .elementTypeMismatch,
    .invalidEncoding]

/-- The name of a kind. -/
def describe : FaultKind → String
  | .invalidReference => "InvalidReference"
  | .invalidArgument => "InvalidArgument"
  | .malformedMetadata => "MalformedMetadata"
  | .duplicateClass => "DuplicateClass"
  | .elementTypeMismatch => "ElementTypeMismatch"
  | .invalidEncoding => "InvalidEncoding"

/-- The message of a kind. -/
def message : FaultKind → String
  | .invalidReference => "invalid reference"
  | .invalidArgument => "invalid argument"
  | .malformedMetadata => "malformed class metadata"
  | .duplicateClass => "class is already loaded"
  | .elementTypeMismatch => "element type mismatch"
  | .invalidEncoding => "invalid string encoding"

end FaultKind

/-- What a name in a class definition names. -/
inductive NameRole where
  | ofClass
  | ofInterface
  deriving DecidableEq, Repr

/-- The noun for what is named. -/
def NameRole.noun : NameRole → String
  | .ofClass => "class"
  | .ofInterface => "interface"

/-- The cause of a failure. -/
inductive Fault where
  /-- The instance is a null reference. -/
  | nullInstance
  /-- The header has no dispatch vector. -/
  | noDispatchVector
  /-- The dispatch vector is null. -/
  | nullDispatchVector
  /-- The name of the interface is null. -/
  | nullInterfaceName
  /-- The interface list has more nodes than may be visited, and the name is on none of those. -/
  | walkBoundExceeded (limit : Nat)
  /-- The array is a null reference. -/
  | nullArray
  /-- The array stores a negative length. -/
  | negativeLength (length : Int32)
  /-- The string is a null reference. -/
  | nullString
  /-- The string has no character array. -/
  | noCharacters
  /-- The character array of the string to decode stores a negative length. -/
  | negativeCharacterLength (length : Int32)
  /-- A name in a definition is empty. -/
  | emptyName (role : NameRole)
  /-- A name in a definition has a NUL at the given byte. -/
  | nulInName (role : NameRole) (name : String) (position : Nat)
  /-- A definition lists more interfaces than allowed. -/
  | tooManyInterfaces (className : CString) (count limit : Nat)
  /-- A definition lists an interface twice. -/
  | repeatedInterface (className : CString) (interfaceName : String)
  /-- A class of the name is loaded. -/
  | duplicateClass (name : CString)
  /-- The class is not of the kind that the instance needs. -/
  | wrongKind (className : CString) (actual expected : TypeKind)
  /-- The elements are more than a length can count. -/
  | tooManyElements (count : Nat)
  /-- A class that the operation needs is not loaded. -/
  | classNotLoaded (name : String)
  /-- The character is not in Latin-1. -/
  | outsideLatin1 (c : Char)
  /-- The unit is a surrogate without its other half. -/
  | unpairedSurrogate (unit : UInt16)
  /-- The bytes are not UTF-8 after the given number of them. -/
  | invalidUtf8 (validBytes : Nat)
  deriving DecidableEq

namespace Fault

/-- The kind of a fault. A class of the wrong kind is a mismatch of elements when an array is needed, and an
invalid argument otherwise. -/
def kind : Fault → FaultKind
  | nullInstance | noDispatchVector | nullArray | nullString | noCharacters => .invalidReference
  | nullDispatchVector | nullInterfaceName | emptyName _ | nulInName .. | tooManyElements _ | classNotLoaded _ =>
    .invalidArgument
  | walkBoundExceeded _ | negativeLength _ | negativeCharacterLength _ | tooManyInterfaces .. |
    repeatedInterface .. => .malformedMetadata
  | duplicateClass _ => .duplicateClass
  | wrongKind _ _ (.array _) => .elementTypeMismatch
  | wrongKind .. => .invalidArgument
  | outsideLatin1 _ | unpairedSurrogate _ | invalidUtf8 _ => .invalidEncoding

/-- A code unit in hexadecimal, with at least four digits. -/
def unitText (unit : UInt16) : String :=
  let digits := Nat.toDigits 16 unit.toNat
  "0x" ++ String.ofList (List.replicate (4 - digits.length) '0' ++ digits)

/-- The details attached to a fault, in order. -/
def attachments : Fault → List String
  | nullInstance => ["null instance"]
  | noDispatchVector => ["instance " ++ Text.someAddress ++ " has no dispatch vector"]
  | nullDispatchVector => ["null dispatch vector"]
  | nullInterfaceName => ["null interface name"]
  | walkBoundExceeded limit =>
    ["interface list of " ++ Text.someAddress ++ " is longer than " ++ Text.describeNat limit ++ " nodes",
      "the list is cyclic or exceeds the installed walk bound"]
  | nullArray => ["null array"]
  | negativeLength length =>
    ["array " ++ Text.someAddress ++ " stores length " ++ Text.describeInt length.toInt]
  | nullString => ["null string"]
  | noCharacters => ["string " ++ Text.someAddress ++ " has no character array"]
  | negativeCharacterLength length => ["character array length " ++ Text.describeInt length.toInt]
  | emptyName role => ["empty " ++ role.noun ++ " name"]
  | nulInName role name position =>
    [role.noun ++ " name " ++ Text.quoted name ++ " contains a NUL byte at " ++ Text.describeNat position]
  | tooManyInterfaces className count limit =>
    ["class " ++ className.quoted ++ " lists " ++ Text.describeNat count ++ " interfaces",
      "at most " ++ Text.describeNat limit ++ " are allowed"]
  | repeatedInterface className interfaceName =>
    ["class " ++ className.quoted ++ " lists " ++ Text.quoted interfaceName ++ " twice"]
  | duplicateClass name => [name.quoted]
  | wrongKind className actual expected =>
    ["class " ++ className.quoted ++ " is " ++ actual.describe, "expected " ++ expected.describe]
  | tooManyElements count => [Text.describeNat count ++ " elements do not fit an array length"]
  | classNotLoaded name => ["class " ++ Text.quoted name ++ " is not loaded"]
  | outsideLatin1 c => [Text.quotedChar c ++ " is outside Latin-1"]
  | unpairedSurrogate unit => ["unpaired surrogate " ++ unitText unit]
  | invalidUtf8 validBytes => ["invalid UTF-8 after " ++ Text.describeNat validBytes ++ " bytes"]

end Fault

end ObjectModel
