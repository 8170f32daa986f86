import ShaderLoom.Value

/-!
# Types of parameters

What a node's author sets on a node.  Only numbers and vectors of four lanes become shader values;
an array becomes a constant, and a string is used while the code is generated.
-/

namespace ShaderLoom

/-- The type of a parameter. -/
inductive ParameterType where
  | float
  | int
  | string
  | array
  | vec4
deriving DecidableEq, Inhabited

namespace ParameterType

/-- Every parameter type. -/
def all : List ParameterType := [.float, .int, .string, .array, .vec4]

/-- The name of a type. -/
def keyword : ParameterType → String
  | .float => "float"
  | .int => "int"
  | .string => "string"
  | .array => "array"
  | .vec4 => "vec4"

/-- The type of the uniform that carries a parameter. -/
def uniformKeyword : ParameterType → String
  | .int => "int"
  | .vec4 => "vec4"
  | _ => "float"

/-- The value of a parameter for which none is known. -/
def zero : ParameterType → Value
  | .int => .int 0
  | .vec4 => .list (List.replicate 4 (.number Double.zero))
  | _ => .number Double.zero

end ParameterType

end ShaderLoom
