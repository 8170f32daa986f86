import ShaderLoom.Value
import ShaderLoom.Number.Fault
import ShaderLoom.Decimal.Reading

/-!
# Values as numbers

A truth counts as one or zero, and a text as the number it spells.  Lists, records and missing
values are no numbers.
-/

namespace ShaderLoom

/-- The integer nearest to a double, a half going up.  The half is added with rounding. -/
def Double.roundHalfUp : Double → Except NumberFault Int
  | .nan => .error .notANumber
  | .infinite _ => .error .infinite
  | .finite negative mantissa exponent =>
    match plusHalf negative mantissa exponent with
    | .nan => .error .notANumber
    | .infinite _ => .error .infinite
    | .finite negative mantissa exponent => .ok (floor negative mantissa exponent)

namespace Value

/-- The double that a text spells. -/
def numberOfText (s : String) : Except NumberFault Double :=
  match Decimal.read? s.toList with
  | some x => .ok x
  | none => .error (.unreadable s)

/-- The double that a value stands for. -/
def toDouble : Value → Except NumberFault Double
  | .bool b => .ok (if b then Double.one else Double.zero)
  | .int i => match Double.ofInt? i with
    | some x => .ok x
    | none => .error .tooLarge
  | .number x => .ok x
  | .text s => numberOfText s
  | .null | .list _ | .record _ => .error .notNumeric

/-- The integer that a value stands for, a half going up. -/
def toInteger (value : Value) : Except NumberFault Int := do
  (← value.toDouble).roundHalfUp

/-- Whether the value was written as a number. -/
def isNumber : Value → Bool
  | .int _ | .number _ => true
  | _ => false

end Value

end ShaderLoom
