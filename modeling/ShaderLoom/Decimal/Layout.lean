import ShaderLoom.Decimal.Shortest

/-!
# Writing a decimal

How the digits of a decimal are laid out: positionally where the exponent is moderate, with an
exponent part elsewhere.  A layout records the choices; the digits do not depend on it.
-/

namespace ShaderLoom.Decimal

/-- The choices made when a decimal is written. -/
structure Layout where
  /-- The least exponent of the leading digit that is written positionally. -/
  leastPositional : Int
  /-- The greatest exponent of the leading digit that is written positionally. -/
  greatestPositional : Int
  /-- Whether a single digit before an exponent part is followed by `.0`. -/
  pointBeforeExponent : Bool
  /-- The text of not-a-number. -/
  nan : String
  /-- The text of an infinite number, by its sign. -/
  infinite : Bool → String

/-- The sign of a negative number. -/
def signText (negative : Bool) : List Char := if negative then ['-'] else []

/-- The digits of a coefficient without the zeros at its end; zero keeps one digit. -/
def significant (coefficient : Nat) : List Char :=
  match ((Nat.toDigits 10 coefficient).reverse.dropWhile (· == '0')).reverse with
  | [] => ['0']
  | digits => digits

/-- The exponent part: the letter, a sign and at least two digits. -/
def exponentPart (exponent : Int) : List Char :=
  let digits := Nat.toDigits 10 exponent.natAbs
  'e' :: (if exponent < 0 then '-' else '+') :: List.replicate (2 - digits.length) '0' ++ digits

/-- The digits of a number whose leading digit stands at `10 ^ lead`, with a point and at least one
digit on either side of it. -/
def positional (digits : List Char) (lead : Int) : List Char :=
  if lead < 0 then '0' :: '.' :: List.replicate (-lead - 1).toNat '0' ++ digits
  else
    let whole := lead.toNat + 1
    let fraction := digits.drop whole
    digits.take whole ++ List.replicate (whole - digits.length) '0'
      ++ '.' :: (if fraction.isEmpty then ['0'] else fraction)

/-- The digits with an exponent part. -/
def scientific (layout : Layout) (digits : List Char) (lead : Int) : List Char :=
  let fraction := digits.drop 1
  let point :=
    if fraction.isEmpty then if layout.pointBeforeExponent then ['.', '0'] else []
    else '.' :: fraction
  digits.take 1 ++ point ++ exponentPart lead

/-- The text of `coefficient * 10 ^ power`. -/
def Scaled.write (layout : Layout) (decimal : Scaled) : List Char :=
  let digits := significant decimal.coefficient
  let lead := decimal.power + digitCount decimal.coefficient - 1
  if layout.leastPositional ≤ lead ∧ lead ≤ layout.greatestPositional then positional digits lead
  else scientific layout digits lead

/-- The text of a double: the shortest decimal that reads back, in the given layout. -/
def write (layout : Layout) : Double → List Char
  | .nan => layout.nan.toList
  | .infinite negative => (layout.infinite negative).toList
  | .finite negative mantissa exponent =>
    signText negative ++
      (if mantissa = 0 then (⟨0, 0⟩ : Scaled) else shortest mantissa exponent).write layout

end ShaderLoom.Decimal
