import ShaderLoom.Palette.Basic

/-!
# Arithmetic
-/

namespace ShaderLoom.Palette

/-- A node type that joins two floats by an operator. -/
def binary (id displayName operator : String) : NodeType where
  id := id
  displayName := displayName
  category := "Math"
  inputs := [port "a" .float, port "b" .float]
  outputs := [port "out" .float]
  parameters := Table.empty
  mainCode := "
    $output.out = $input.a " ++ operator ++ " $input.b;
    "
  functions := none
  description := ""

def add : NodeType := binary "add" "Add" "+"

def multiply : NodeType := binary "multiply" "Multiply" "*"

def oneMinus : NodeType where
  id := "one-minus"
  displayName := "One Minus"
  category := "Math"
  inputs := [port "in" .float]
  outputs := [port "out" .float]
  parameters := Table.empty
  mainCode := "
    $output.out = 1.0 - $input.in;
    "
  functions := none
  description := "1.0 - x"

def remap : NodeType where
  id := "remap"
  displayName := "Remap"
  category := "Math"
  inputs := [port "in" .float]
  outputs := [port "out" .float]
  parameters := Table.ofList
    [("inMin", plain .float (decimal 0 1)), ("inMax", plain .float (decimal 10 1)),
      ("outMin", plain .float (decimal 0 1)), ("outMax", plain .float (decimal 10 1))]
  mainCode := "
    float span = $param.inMax - $param.inMin;
    float t = abs(span) < 1e-6 ? 0.0 : ($input.in - $param.inMin) / span;
    $output.out = mix($param.outMin, $param.outMax, t);
    "
  functions := none
  description := "Linearly maps [inMin, inMax] onto [outMin, outMax]"

/-- The node types of this module. -/
def arithmetic : List NodeType := [add, multiply, oneMinus, remap]

end ShaderLoom.Palette
