import ShaderLoom.Number.Power
import ShaderLoom.Number.Rounding

/-!
# Double-precision numbers

The numbers of the binary interchange format with 53 bits of precision, held by their meaning:
a finite number is a sign, a mantissa and a power of two.  `ofRatio` rounds an exact quotient to
the nearest such number, and every operation below is an exact computation followed by it.
-/

namespace ShaderLoom

/-- A double-precision number; `finite` stands for `±mantissa * 2 ^ exponent`. -/
inductive Double where
  | nan
  | infinite (negative : Bool)
  | finite (negative : Bool) (mantissa : Nat) (exponent : Int)
deriving DecidableEq, Inhabited

namespace Double

/-- The exponent of the smallest numbers. -/
def leastExponent : Int := -1074

/-- The exponent of the largest numbers. -/
def greatestExponent : Int := 971

/-- Every mantissa is below this bound. -/
def mantissaBound : Nat := Number.twoTo 53

/-- The number `±mantissa * 2 ^ exponent`, or an infinite one when the exponent is too large. -/
def bounded (negative : Bool) (mantissa : Nat) (exponent : Int) : Double :=
  if greatestExponent < exponent then .infinite negative else .finite negative mantissa exponent

/-- The number `±mantissa * 2 ^ exponent` for a mantissa up to the bound, which is halved there. -/
def pack (negative : Bool) (mantissa : Nat) (exponent : Int) : Double :=
  if mantissa = mantissaBound then bounded negative (Number.twoTo 52) (exponent + 1)
  else bounded negative mantissa exponent

/-- The number nearest to `±num / den`, the one with even mantissa of two that are equally near. -/
def ofRatio (negative : Bool) (num den : Nat) : Double :=
  if num = 0 then .finite negative 0 leastExponent
  else
    let guess := max ((num.log2 : Int) - den.log2 - 53) leastExponent
    let scaled (exponent : Int) := (num * Number.twoTo (-exponent), den * Number.twoTo exponent)
    let exponent :=
      if (scaled guess).1 / (scaled guess).2 < mantissaBound then guess else guess + 1
    pack negative (Number.roundHalfEven (scaled exponent).1 (scaled exponent).2) exponent

/-- The number nearest to an integer; `none` when the integer is too large. -/
def ofInt? (i : Int) : Option Double :=
  match ofRatio (i < 0) i.natAbs 1 with
  | .finite negative mantissa exponent => some (.finite negative mantissa exponent)
  | _ => none

/-- The integer `±n`. -/
def signed (negative : Bool) (n : Nat) : Int := if negative then -n else n

/-- The number nearest to the sum of `±mantissa * 2 ^ exponent` and one half. -/
def plusHalf (negative : Bool) (mantissa : Nat) (exponent : Int) : Double :=
  let den : Nat := Number.twoTo (-exponent)
  let sum : Int := 2 * (signed negative mantissa * Number.twoTo exponent) + den
  ofRatio (sum < 0) sum.natAbs (2 * den)

/-- The largest integer that is at most `±mantissa * 2 ^ exponent`. -/
def floor (negative : Bool) (mantissa : Nat) (exponent : Int) : Int :=
  signed negative mantissa * Number.twoTo exponent / Number.twoTo (-exponent)

/-- Whether the number is zero, of either sign. -/
def isZero : Double → Bool
  | .finite _ mantissa _ => mantissa == 0
  | _ => false

/-- Positive zero. -/
def zero : Double := .finite false 0 leastExponent

/-- One. -/
def one : Double := .finite false (Number.twoTo 52) (-52)

end Double

end ShaderLoom
