/-!
# Wire modes

How the value of a wire is joined with the value that a parameter was given.
-/

namespace ShaderLoom

/-- How a wired value meets the value of its parameter. -/
inductive WireMode where
  /-- The wired value replaces the other. -/
  | override
  | add
  | subtract
  | multiply
deriving DecidableEq, Inhabited

namespace WireMode

/-- Every mode. -/
def all : List WireMode := [.override, .add, .subtract, .multiply]

/-- The name of a mode. -/
def keyword : WireMode → String
  | .override => "override"
  | .add => "add"
  | .subtract => "subtract"
  | .multiply => "multiply"

/-- The operator that joins the two values; an overriding wire needs none. -/
def operator : WireMode → String
  | .override => ""
  | .add => "+"
  | .subtract => "-"
  | .multiply => "*"

end WireMode

end ShaderLoom
