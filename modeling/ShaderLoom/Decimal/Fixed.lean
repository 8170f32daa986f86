import ShaderLoom.Decimal.Layout

/-!
# Decimals with a fixed number of places

A double is rounded exactly to a given number of decimal places, a half to the even neighbour.
The sign of a number that rounds to zero is kept.
-/

namespace ShaderLoom.Decimal

/-- The digits of `units`, with a point before the last `places` of them. -/
def withPoint (places units : Nat) : List Char :=
  let digits := Nat.toDigits 10 units
  let padded := List.replicate (places + 1 - digits.length) '0' ++ digits
  let whole := padded.length - places
  padded.take whole ++ (if places = 0 then [] else '.' :: padded.drop whole)

/-- The text of a double with `places` decimal places. -/
def fixed (places : Nat) : Double → List Char
  | .nan => "nan".toList
  | .infinite negative => signText negative ++ "inf".toList
  | .finite negative mantissa exponent =>
    let units := Number.roundHalfEven (mantissa * Number.twoTo exponent * Number.tenTo places)
      (Number.twoTo (-exponent))
    signText negative ++ withPoint places units

end ShaderLoom.Decimal
