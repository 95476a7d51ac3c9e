/-!
# Descriptions of values

How the structure of a value is written in one line: a record with its named fields, a constructor with its
argument, a list, and a value that may be absent.
-/

namespace ObjectModel.Text

/-- A record: its name, and its fields by name in braces. -/
def describeRecord (name : String) (fields : List (String × String)) : String :=
  name ++ " \x7b " ++ ", ".intercalate (fields.map fun field => field.1 ++ ": " ++ field.2) ++ " \x7d"

/-- A constructor with one argument. -/
def describeApplied (name argument : String) : String :=
  name ++ "(" ++ argument ++ ")"

/-- A list of values already described. -/
def describeList (items : List String) : String :=
  "[" ++ ", ".intercalate items ++ "]"

/-- A value that may be absent. -/
def describeOption : Option String → String
  | none => "None"
  | some value => describeApplied "Some" value

/-- A truth value. -/
def describeBool : Bool → String
  | true => "true"
  | false => "false"

/-- A natural number in decimal. -/
def describeNat (n : Nat) : String :=
  String.ofList (Nat.toDigits 10 n)

/-- An integer in decimal. -/
def describeInt : Int → String
  | .ofNat n => describeNat n
  | .negSucc n => "-" ++ describeNat (n + 1)

/-- An address that is present; addresses themselves are not part of the model. -/
def someAddress : String :=
  "0xPTR"

/-- The null address. -/
def nullAddress : String :=
  "0x0"

end ObjectModel.Text
