import ShaderLoom.Number.Double

/-!
# The shortest decimal of a double

Among the decimals that read back as a given double, the one with the fewest digits is taken, and
of several the nearest.  The reals that round to a double form an interval around it; for one
digit, two digits and so on, the two neighbours of the double on the grid of that many digits are
tested against the interval in exact arithmetic.
-/

namespace ShaderLoom.Decimal

/-- The number of decimal digits of `n`. -/
def digitCount (n : Nat) : Nat := (Nat.toDigits 10 n).length

/-- The power of ten of the leading digit of `num / den`. -/
def magnitude (num den : Nat) : Int :=
  let guess := (digitCount num : Int) - digitCount den
  if den * Number.tenTo guess ≤ num * Number.tenTo (-guess) then guess else guess - 1

/-- The interval of reals that round to one double, in units of `2 ^ exponent`. -/
structure Interval where
  low : Nat
  value : Nat
  high : Nat
  exponent : Int
  /-- Whether the two ends belong to the interval. -/
  closed : Bool

namespace Interval

/-- The interval of `mantissa * 2 ^ exponent`.  Below a power of two the doubles lie twice as
close. -/
def ofDouble (mantissa : Nat) (exponent : Int) : Interval where
  low := if mantissa = Number.twoTo 52 ∧ Double.leastExponent < exponent then 4 * mantissa - 1
    else 4 * mantissa - 2
  value := 4 * mantissa
  high := 4 * mantissa + 2
  exponent := exponent - 2
  closed := mantissa % 2 == 0

/-- Whether `coefficient * 10 ^ power` lies in the interval. -/
def contains (interval : Interval) (coefficient : Nat) (power : Int) : Bool :=
  let point := coefficient * Number.tenTo power * Number.twoTo (-interval.exponent)
  let unit := Number.twoTo interval.exponent * Number.tenTo (-power)
  if interval.closed then interval.low * unit ≤ point && point ≤ interval.high * unit
  else interval.low * unit < point && point < interval.high * unit

/-- The value of the interval in units of `10 ^ power`, as a quotient. -/
def onGrid (interval : Interval) (power : Int) : Nat × Nat :=
  (interval.value * Number.twoTo interval.exponent * Number.tenTo (-power),
    Number.twoTo (-interval.exponent) * Number.tenTo power)

/-- The coefficient of `10 ^ power` nearest to the value, among its two neighbours on that grid
that lie in the interval. -/
def neighbour? (interval : Interval) (power : Int) : Option Nat :=
  let (num, den) := interval.onGrid power
  let below := num / den
  match interval.contains below power, interval.contains (below + 1) power with
  | true, true => some (Number.roundHalfEven num den)
  | true, false => some below
  | false, true => some (below + 1)
  | false, false => none

end Interval

/-- `coefficient * 10 ^ power`. -/
structure Scaled where
  coefficient : Nat
  power : Int
deriving DecidableEq, Inhabited

/-- The most digits that the shortest decimal of a double can have. -/
def maxDigits : Nat := 17

/-- The shortest decimal that reads back as `mantissa * 2 ^ exponent`, for a positive mantissa. -/
def shortest (mantissa : Nat) (exponent : Int) : Scaled :=
  let interval := Interval.ofDouble mantissa exponent
  let lead := magnitude (interval.onGrid 0).1 (interval.onGrid 0).2
  let attempt (digits : Nat) : Option Scaled :=
    let power := lead - digits
    (interval.neighbour? power).map fun coefficient => ⟨coefficient, power⟩
  ((List.range maxDigits).findSome? attempt).getD
    (let power := lead - (maxDigits - 1 : Nat)
     ⟨Number.roundHalfEven (interval.onGrid power).1 (interval.onGrid power).2, power⟩)

end ShaderLoom.Decimal
