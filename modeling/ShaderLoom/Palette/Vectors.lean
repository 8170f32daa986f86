import ShaderLoom.Palette.Basic

/-!
# Taking vectors apart and putting them together
-/

namespace ShaderLoom.Palette

/-- The four lanes of a vector as float ports. -/
def lanePorts : List Port :=
  [port "x" .float, port "y" .float, port "z" .float, port "w" .float]

/-- The code of a swizzle is made from its pattern and not from the template. -/
def swizzle : NodeType where
  id := "swizzle"
  displayName := "Swizzle"
  category := "Utility"
  inputs := [port "in" .vec4]
  outputs := [port "out" .vec4]
  parameters := Table.ofList [("swizzle", plain .string (.text "xyzw"))]
  mainCode := "
    vec4 v = $input.in;
    $output.out = v;
    "
  functions := none
  description := "Reorders vector components (xy, zyx, wzyx, rgba, ...)"

def splitVector : NodeType where
  id := "split-vector"
  displayName := "Split Vector"
  category := "Utility"
  inputs := [port "in" .vec4]
  outputs := lanePorts
  parameters := Table.empty
  mainCode := "
    vec4 v = $input.in;
    $output.x = v.x;
    $output.y = v.y;
    $output.z = v.z;
    $output.w = v.w;
    "
  functions := none
  description := ""

def combineVector : NodeType where
  id := "combine-vector"
  displayName := "Combine Vector"
  category := "Utility"
  inputs := lanePorts
  outputs := [port "out" .vec4]
  parameters := Table.ofList [("outputType", counted 2 2 4)]
  mainCode := "
    if ($param.outputType == 2) \x7b
      $output.out = vec4($input.x, $input.y, 0.0, 1.0);
    \x7d else if ($param.outputType == 3) \x7b
      $output.out = vec4($input.x, $input.y, $input.z, 1.0);
    \x7d else \x7b
      $output.out = vec4($input.x, $input.y, $input.z, $input.w);
    \x7d
    "
  functions := none
  description := ""

/-- The node types of this module. -/
def vectors : List NodeType := [swizzle, splitVector, combineVector]

end ShaderLoom.Palette
