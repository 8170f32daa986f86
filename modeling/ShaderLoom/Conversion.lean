import ShaderLoom.Fault
import ShaderLoom.Text.Word

/-!
# Conversions

A value of one port type used where another is expected.  A scalar fills the lanes of a vector, a
short vector is padded with zeros, a missing alpha is one, and a long vector is cut.  No value
becomes a truth, and no truth becomes anything else.
-/

namespace ShaderLoom.Conversion

/-- Whether all characters of a text are in a class, apart from one newline at its end. -/
def allUpToNewline (p : Char → Bool) : List Char → Bool
  | [] => true
  | [c] => p c || c == '\n'
  | c :: rest => p c && allUpToNewline p rest

/-- An ASCII letter or an underscore. -/
def isNameStart (c : Char) : Bool := c.isAlpha || c == '_'

/-- Whether `expr` is a bare name whose later characters are in the class `p`. -/
def isBareName (p : Char → Bool) (expr : String) : Bool :=
  match expr.toList with
  | [] => false
  | c :: rest => isNameStart c && allUpToNewline p rest

/-- An expression of which a lane can be taken: a bare name, or anything else in parentheses. -/
def operand (expr : String) : String :=
  if isBareName (fun c => c.isAlphanum || c == '_') expr then expr else "(" ++ expr ++ ")"

/-- A scalar in every lane of a vector; the fourth lane is one. -/
def replicate (expr : String) : PortType → String
  | .vec2 => "vec2(" ++ expr ++ ", " ++ expr ++ ")"
  | .vec3 => "vec3(" ++ expr ++ ", " ++ expr ++ ", " ++ expr ++ ")"
  | .vec4 => "vec4(" ++ expr ++ ", " ++ expr ++ ", " ++ expr ++ ", 1.0)"
  | _ => expr

/-- The first lane of a vector. -/
def firstLane (expr : String) : PortType → String
  | .vec2 => operand expr ++ ".x"
  | .vec3 | .vec4 => operand expr ++ ".r"
  | _ => expr

/-- A vector with more or fewer lanes. -/
def resize (expr : String) : PortType → PortType → String
  | .vec2, .vec3 => "vec3(" ++ operand expr ++ ".x, " ++ operand expr ++ ".y, 0.0)"
  | .vec2, .vec4 => "vec4(" ++ operand expr ++ ".x, " ++ operand expr ++ ".y, 0.0, 1.0)"
  | .vec3, .vec4 =>
    "vec4(" ++ operand expr ++ ".x, " ++ operand expr ++ ".y, " ++ operand expr ++ ".z, 1.0)"
  | .vec3, .vec2 | .vec4, .vec2 => operand expr ++ ".xy"
  | .vec4, .vec3 => operand expr ++ ".rgb"
  | _, _ => expr

/-- The expression `expr` of type `source` as an expression of type `target`.  The fault names
`node`. -/
def convert (node : Option String) (expr : String) (source target : PortType) :
    Except Fault String :=
  match source, target with
  | .bool, .bool => .ok expr
  | .bool, _ | _, .bool => .error (.conversion source target node)
  | .int, .int | .float, .float => .ok expr
  | .int, .float => .ok ("float(" ++ expr ++ ")")
  | .float, .int => .ok ("int(" ++ expr ++ ")")
  | .int, target => .ok (replicate ("float(" ++ expr ++ ")") target)
  | .float, target => .ok (replicate expr target)
  | source, .int => .ok ("int(" ++ firstLane expr source ++ ")")
  | source, .float => .ok (firstLane expr source)
  | source, target => .ok (resize expr source target)

/-- The expression as a float for a float parameter: a vector gives its first lane. -/
def toParameter (node : Option String) (expr : String) : PortType → Except Fault String
  | .float => .ok expr
  | .int => .ok ("float(" ++ expr ++ ")")
  | .vec2 | .vec3 | .vec4 => .ok (operand expr ++ ".x")
  | .bool => .error (.conversion .bool .float node)

/-- The expression as the color that a shader writes. -/
def toColor (expr : String) : PortType → Except Fault String
  | .vec3 => .ok expr
  | .vec4 => .ok (operand expr ++ ".rgb")
  | .vec2 => .ok ("vec3(" ++ expr ++ ", 0.0)")
  | .int => .ok ("vec3(float(" ++ expr ++ "))")
  | .float => .ok ("vec3(" ++ expr ++ ")")
  | .bool => .error (.conversion .bool .vec3 none)

end ShaderLoom.Conversion
