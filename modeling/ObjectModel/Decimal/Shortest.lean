/-!
# Shortest decimals of binary floating-point numbers

A finite number of a binary format is `m · 2^q`. The reals that round to it form an interval, whose ends belong
to it when `m` is even. Among the decimals in that interval the printed one has the fewest digits and, of
those, lies nearest to the number; of two equally near it is the larger. For 1, 2, … digits the number has two
neighbours on the decimal grid with that many digits; the first grid with a neighbour in the interval gives the
answer. All comparisons are exact.
-/

namespace ObjectModel.Decimal

/-- A binary interchange format: the widths of its fraction and exponent fields. -/
structure BinaryFormat where
  fractionBits : Nat
  exponentBits : Nat
  deriving DecidableEq, Repr

/-- The 32-bit format. -/
def BinaryFormat.single : BinaryFormat :=
  ⟨23, 8⟩

/-- The 64-bit format. -/
def BinaryFormat.double : BinaryFormat :=
  ⟨52, 11⟩

/-- The magnitude of a number: infinite, not a number, or `m · 2^q`. -/
inductive Magnitude where
  | infinite
  | notANumber
  | finite (m : Nat) (q : Int) (narrowBelow : Bool)
  deriving DecidableEq, Repr

/-- Whether the sign bit of a bit pattern is set. -/
def BinaryFormat.isNegative (format : BinaryFormat) (bits : Nat) : Bool :=
  bits / Nat.pow 2 (format.fractionBits + format.exponentBits) % 2 = 1

/-- The magnitude that a bit pattern stands for. The gap below a number is narrower than the one above it when
its fraction field is zero and it is not the least of its kind. -/
def BinaryFormat.magnitude (format : BinaryFormat) (bits : Nat) : Magnitude :=
  let fraction := bits % Nat.pow 2 format.fractionBits
  let exponent := bits / Nat.pow 2 format.fractionBits % Nat.pow 2 format.exponentBits
  let least : Int := 2 - Nat.pow 2 (format.exponentBits - 1) - format.fractionBits
  if exponent = Nat.pow 2 format.exponentBits - 1 then
    if fraction = 0 then .infinite else .notANumber
  else if exponent = 0 then .finite fraction least false
  else .finite (fraction + Nat.pow 2 format.fractionBits) (least + exponent - 1) (fraction = 0 && 1 < exponent)

/-- The number of decimal digits of a natural number, at least one. -/
def digitCount (n : Nat) : Nat :=
  (Nat.toDigits 10 n).length

/-- The exponent `e` with `10^e ≤ num / den < 10^(e + 1)`. -/
def decimalExponent (num den : Nat) : Int :=
  if den ≤ num then digitCount (num / den) - 1
  else -(digitCount ((den + num - 1) / num - 1) : Int)

/-- The decimal `digits · 10^scale` compared with `units · num / den`. -/
def compareDecimal (digits : Nat) (scale : Int) (num den : Nat) : Ordering :=
  compare (digits * Nat.pow 10 scale.toNat * den) (num * Nat.pow 10 (-scale).toNat)

/-- The unsigned decimal `digits · 10^scale`. -/
structure Scaled where
  digits : Nat
  scale : Int
  deriving DecidableEq, Repr

/-- The reals that round to a number, by numerators over a common denominator. -/
structure Interval where
  low : Nat
  high : Nat
  den : Nat
  closed : Bool

/-- Whether a decimal lies in an interval. -/
def Interval.contains (interval : Interval) (d : Scaled) : Bool :=
  let below := compareDecimal d.digits d.scale interval.low interval.den
  let above := compareDecimal d.digits d.scale interval.high interval.den
  (below = .gt || below = .eq && interval.closed) && (above = .lt || above = .eq && interval.closed)

/-- The neighbour of `num / den` on the grid of step `10^scale` that lies in the interval; of two the nearer,
and of two equally near the larger. -/
def nearestOnGrid (interval : Interval) (num : Nat) (scale : Int) : Option Scaled :=
  let scaledNum := num * Nat.pow 10 (-scale).toNat
  let step := interval.den * Nat.pow 10 scale.toNat
  let down : Scaled := ⟨scaledNum / step, scale⟩
  let up : Scaled := ⟨scaledNum / step + 1, scale⟩
  match interval.contains down && 0 < down.digits, interval.contains up with
  | true, true => if 2 * (scaledNum % step) < step then some down else some up
  | true, false => some down
  | false, true => some up
  | false, false => none

/-- The first grid with a neighbour in the interval, from the given number of digits on. -/
def firstGrid (interval : Interval) (num : Nat) (exponent : Int) : Nat → Nat → Option Scaled
  | 0, _ => none
  | remaining + 1, digits =>
    match nearestOnGrid interval num (exponent + 1 - digits) with
    | some d => some d
    | none => firstGrid interval num exponent remaining (digits + 1)

/-- The decimal without the zeros at the end of its digits. -/
def stripZeros : Nat → Scaled → Scaled
  | 0, d => d
  | fuel + 1, d => if d.digits ≠ 0 ∧ d.digits % 10 = 0 then stripZeros fuel ⟨d.digits / 10, d.scale + 1⟩ else d

/-- The shortest decimal of `m · 2^q`, for positive `m`. Seventeen digits suffice for the formats above. -/
def shortest (m : Nat) (q : Int) (narrowBelow : Bool) : Scaled :=
  let power := Nat.pow 2 (q - 2).toNat
  let den := Nat.pow 2 (2 - q).toNat
  let num := 4 * m * power
  let low := (4 * m - if narrowBelow then 1 else 2) * power
  let interval : Interval := ⟨low, (4 * m + 2) * power, den, m % 2 = 0⟩
  let found := firstGrid interval num (decimalExponent num den) 17 1
  stripZeros 20 (found.getD ⟨m, 0⟩)

end ObjectModel.Decimal
