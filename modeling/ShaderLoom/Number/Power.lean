/-!
# Powers of two and of ten

A fraction `m * 2 ^ e` is handled as a quotient of natural numbers: the power stands in the
numerator when `e` is positive and in the denominator when it is negative.  So the powers below
are one for every negative exponent.
-/

namespace ShaderLoom.Number

/-- The power `2 ^ e`, or one when `e` is negative. -/
def twoTo (e : Int) : Nat := Nat.pow 2 e.toNat

/-- The power `10 ^ e`, or one when `e` is negative. -/
def tenTo (e : Int) : Nat := Nat.pow 10 e.toNat

theorem twoTo_pos (e : Int) : 0 < twoTo e := Nat.pow_pos (by decide)

theorem tenTo_pos (e : Int) : 0 < tenTo e := Nat.pow_pos (by decide)

end ShaderLoom.Number
