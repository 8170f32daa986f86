import ShaderLoom.Decimal.Fixed
import ShaderLoom.Fault
import ShaderLoom.ParameterType
import ShaderLoom.Value.Grid

/-!
# Literals

Values written into shader code.  A float literal always has a point; a number that shader code
cannot express becomes zero, and so does a value that is no number at all.
-/

namespace ShaderLoom.Literal

/-- Floats in shader code: as in messages, but with a point in every literal. -/
def floatLayout : Decimal.Layout where
  leastPositional := -4
  greatestPositional := 15
  pointBeforeExponent := true
  nan := "0.0"
  infinite := fun _ => "0.0"

/-- The float literal of a double. -/
def ofDouble (x : Double) : String := String.ofList (Decimal.write floatLayout x)

/-- The float literal of a value. -/
def ofValue (value : Value) : Except NumberFault String := do
  return ofDouble (← value.toDouble)

/-- A literal that stands in for the value when the value is no number.  An integer that is too
large is a fault all the same. -/
def orElse (fallback : String) : Except NumberFault String → Except NumberFault String
  | .ok text => .ok text
  | .error .tooLarge => .error .tooLarge
  | .error _ => .ok fallback

/-- The components of a vector literal, filled up to four with zeros and a final one. -/
def fourComponents (components : List Double) : List Double :=
  (components ++ [Double.zero, Double.zero, Double.zero, Double.one].drop components.length).take 4

/-- The literal of a vector with four lanes. -/
def ofComponents : List Double → String
  | [] => "vec4(0.0)"
  | components => "vec4(" ++ ", ".intercalate ((fourComponents components).map ofDouble) ++ ")"

/-- The vector literal of a value, whose numbers are taken in order. -/
def vectorOfValue (value : Value) : Except NumberFault String :=
  match value with
  | .null => .ok (ofComponents [])
  | value => do return ofComponents (← value.toGrid).entries

/-- The integer literal of a value. -/
def integerOfValue (value : Value) : String :=
  match value.toInteger with
  | .ok i => (writtenInt i).toOption.getD "0"
  | .error _ => "0"

/-- The literal of a parameter value, by the type of the parameter. -/
def ofParameter (value : Value) : ParameterType → Except NumberFault String
  | .int => .ok (integerOfValue value)
  | .vec4 => orElse "vec4(0.0)" (vectorOfValue value)
  | _ => orElse "0.0" (ofValue value)

/-! ### Array constants -/

/-- The numbers of an array parameter; `none` if the value is not given or is no grid of numbers. -/
def arrayEntries (value : Value) : Except NumberFault (Option (List Double)) :=
  match value with
  | .null => .ok none
  | value => match value.toGrid with
    | .ok grid => .ok (some grid.entries)
    | .error .tooLarge => .error .tooLarge
    | .error _ => .ok none

/-- The most decimal places that a number can be written with. -/
def maxPlaces : Int := 2147483647

/-- The most decimal places that can be counted. -/
def maxCountablePlaces : Int := 9223372036854775807

/-- The number of decimal places, if a number can be written with so many. -/
def usablePlaces (places : Int) : Except PlacesFault Nat :=
  if places < 0 then .error .negative
  else if maxCountablePlaces < places then .error .uncountable
  else if maxPlaces < places then .error .tooMany
  else .ok places.toNat

/-- The text of an entry of an array constant, which has `places` decimal places. -/
def ofEntry (places : Int) (entry : Double) : Except Fault String :=
  match usablePlaces places with
  | .ok count => .ok (String.ofList (Decimal.fixed count entry))
  | .error cause => .error (.places cause)

/-- The declaration of an array constant, whose entries have `places` decimal places.  An array
without entries can be declared whatever the places are. -/
def arrayDeclaration (name : String) (entries : List Double) (places : Int) :
    Except Fault String := do
  let body ← entries.mapM (ofEntry places)
  let size := decimalText entries.length
  return "const float " ++ name ++ "[" ++ size ++ "] = float[" ++ size ++ "]("
    ++ ", ".intercalate body ++ ");"

end ShaderLoom.Literal
