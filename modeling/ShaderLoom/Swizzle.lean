import ShaderLoom.Spelling
import ShaderLoom.Text.Blank

/-!
# Swizzles

A swizzle names lanes of a vector by the letters `xyzw` or `rgba`.  A pattern of one letter fills
the three color lanes; missing color lanes are zero and a missing alpha is one.
-/

namespace ShaderLoom.Swizzle

/-- The lane that a color letter stands for; every other character is itself. -/
def laneOfColor : Char → Char
  | 'r' => 'x'
  | 'g' => 'y'
  | 'b' => 'z'
  | 'a' => 'w'
  | c => c

/-- Whether a character names a lane. -/
def isLane (c : Char) : Bool := c == 'x' || c == 'y' || c == 'z' || c == 'w'

/-- The lanes that a value names, one to four of them. -/
def pattern? : Value → Option (List Char)
  | .text s =>
    let lanes := (Text.lower (Text.trim s.toList)).map laneOfColor
    if 1 ≤ lanes.length ∧ lanes.length ≤ 4 ∧ lanes.all isLane then some lanes else none
  | _ => none

/-- The vector of four lanes that a pattern takes from `input`. -/
def expression (input : String) (pattern : List Char) : String :=
  let taken := input ++ "." ++ String.ofList pattern
  match pattern.length with
  | 1 => "vec4(" ++ taken ++ ", " ++ taken ++ ", " ++ taken ++ ", 1.0)"
  | 2 => "vec4(" ++ taken ++ ", 0.0, 1.0)"
  | 3 => "vec4(" ++ taken ++ ", 1.0)"
  | 4 => taken
  | _ => input

end ShaderLoom.Swizzle
