import ObjectModel.Decimal.Shortest
import ObjectModel.Text.Described

/-!
# Floating-point numbers in writing

The shortest decimal of a number is written positionally in a middle range of magnitudes and with an exponent
outside it.
-/

namespace ObjectModel.Decimal

/-- The decisions that fix how magnitudes are written. -/
structure WrittenForm where
  leastPositional : Int
  firstExponential : Int
  infinity : String
  notANumber : String

/-- Magnitudes from `10^(-4)` on and below `10^16` are written positionally. -/
def WrittenForm.standard : WrittenForm :=
  ⟨-4, 16, "inf", "NaN"⟩

/-- Digits with a point before the last `places` of them, and at least one digit on each side of it. -/
def positional (d : Scaled) : String :=
  let digits := Nat.toDigits 10 d.digits
  if 0 ≤ d.scale then String.ofList (digits ++ List.replicate d.scale.toNat '0') ++ ".0"
  else
    let places := (-d.scale).toNat
    let padded := List.replicate (places + 1 - digits.length) '0' ++ digits
    String.ofList (padded.take (padded.length - places)) ++ "." ++
      String.ofList (padded.drop (padded.length - places))

/-- One digit, the others after a point if there are any, and the exponent. -/
def exponential (d : Scaled) : String :=
  let digits := Nat.toDigits 10 d.digits
  let fraction := digits.drop 1
  let exponent := d.scale + fraction.length
  String.ofList (digits.take 1) ++ (if fraction.isEmpty then "" else "." ++ String.ofList fraction) ++ "e" ++
    Text.describeInt exponent

/-- The written form of a magnitude. -/
def WrittenForm.write (style : WrittenForm) : Magnitude → String
  | .infinite => style.infinity
  | .notANumber => style.notANumber
  | .finite 0 _ _ => positional ⟨0, 0⟩
  | .finite m q narrowBelow =>
    let d := shortest m q narrowBelow
    let exponent := d.scale + digitCount d.digits - 1
    if style.leastPositional ≤ exponent ∧ exponent < style.firstExponential then positional d else exponential d

/-- The written form of a bit pattern: a sign for negative numbers and negative zero, none for not-a-number. -/
def written (format : BinaryFormat) (bits : Nat) : String :=
  let magnitude := format.magnitude bits
  (if format.isNegative bits ∧ magnitude ≠ .notANumber then "-" else "") ++ WrittenForm.standard.write magnitude

end ObjectModel.Decimal
