import ObjectModel.Event
import ObjectModel.Text.Blank
import ObjectModel.Text.Split

/-!
# Configuration options

A configuration in writing is a list of options separated by commas. White space around an option and empty
options mean nothing. An option names an encoding, in letters of either case, or gives the walk bound as
`max-interfaces=` and a number below 2^64; a later option overrides an earlier one on the same setting. Any
other option is reported and otherwise ignored.
-/

namespace ObjectModel

/-- What one option says. -/
inductive Setting where
  | encoding (e : Encoding)
  | walkBound (n : Nat)
  | invalidBound
  | unknown
  deriving DecidableEq, Repr

namespace Setting

/-- What stands in front of a walk bound. -/
def boundKey : List Char :=
  "max-interfaces=".toList

/-- The rest of a text that starts with the given characters. -/
def dropLead? (lead cs : List Char) : Option (List Char) :=
  if lead.isPrefixOf cs then some (cs.drop lead.length) else none

/-- The number with the given decimal digits. -/
def digitsValue (digits : List Char) : Nat :=
  digits.foldl (fun n c => 10 * n + (c.toNat - '0'.toNat)) 0

/-- A number below 2^64 in decimal digits, with or without a plus sign. -/
def readBound? (cs : List Char) : Option Nat :=
  let digits := (dropLead? ['+'] cs).getD cs
  if digits ≠ [] ∧ digits.all Char.isDigit ∧ digitsValue digits < UInt64.size then some (digitsValue digits) else none

/-- The encoding that an option names, in letters of either case. -/
def readEncoding? (option : List Char) : Option Encoding :=
  Encoding.all.find? fun e => e.name.toList = option.map Char.toLower

/-- What an option says. -/
def ofOption (option : List Char) : Setting :=
  match readEncoding? option, dropLead? boundKey option with
  | some e, _ => .encoding e
  | none, some value => ((readBound? value).map walkBound).getD invalidBound
  | none, none => .unknown

/-- The configuration after a setting. -/
def apply (config : Config) : Setting → Config
  | encoding e => { config with encoding := e }
  | walkBound n => { config with walkBound := n }
  | invalidBound => config
  | unknown => config

/-- The report on an option that says nothing. -/
def warning? (option : List Char) : Setting → Option Event
  | encoding _ => none
  | walkBound _ => none
  | invalidBound => some (.invalidBound (String.ofList option))
  | unknown => some (.unknownOption (String.ofList option))

end Setting

namespace Config

/-- The options in a text, without white space around them and without the empty ones. -/
def optionsOf (text : List Char) : List (List Char) :=
  ((Text.splitAt ',' text).map Text.trim).filter (· ≠ [])

/-- The configuration that the options in a text say, and the reports on those that say nothing. -/
def ofOptions (text : List Char) : Logged Config :=
  let options := optionsOf text
  ⟨(options.map Setting.ofOption).foldl Setting.apply standard,
    options.filterMap fun option => (Setting.ofOption option).warning? option⟩

/-- The configuration that an environment variable says, which may be unset and need not hold text. -/
def ofEnvironment : Option (List UInt8) → Logged Config
  | none => ⟨standard, []⟩
  | some bytes => ofOptions (Utf8.decodeLossy bytes)

end Config

end ObjectModel
