/-!
# Types of ports

The values that travel along data wires: scalars, and vectors of two to four lanes.
-/

namespace ShaderLoom

/-- The type of a value on a port. -/
inductive PortType where
  | float
  | int
  | bool
  | vec2
  | vec3
  | vec4
deriving DecidableEq, Inhabited

namespace PortType

/-- Every port type. -/
def all : List PortType := [.float, .int, .bool, .vec2, .vec3, .vec4]

/-- The keyword of a type in shader code. -/
def keyword : PortType → String
  | .float => "float"
  | .int => "int"
  | .bool => "bool"
  | .vec2 => "vec2"
  | .vec3 => "vec3"
  | .vec4 => "vec4"

/-- Whether values of the type have lanes. -/
def isVector : PortType → Bool
  | .vec2 | .vec3 | .vec4 => true
  | _ => false

/-- Whether values of the type can stand for a color. -/
def isColor : PortType → Bool
  | .vec3 | .vec4 => true
  | _ => false

/-- The zero of a type, as shader code. -/
def zeroText : PortType → String
  | .float => "0.0"
  | .int => "0"
  | .bool => "false"
  | .vec2 => "vec2(0.0)"
  | .vec3 => "vec3(0.0)"
  | .vec4 => "vec4(0.0)"

end PortType

end ShaderLoom
