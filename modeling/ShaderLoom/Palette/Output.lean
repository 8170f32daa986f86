import ShaderLoom.Palette.Basic

/-!
# The final color

The node that marks the color of the shader.  It runs no code; the color is read from the wire
into it.
-/

namespace ShaderLoom.Palette

def finalOutput : NodeType where
  id := "final-output"
  displayName := "Final Output"
  category := "Output"
  inputs := [port "in" .vec3]
  outputs := [port "out" .vec3]
  parameters := Table.empty
  mainCode := "
    $output.out = $input.in;
    "
  functions := none
  description := "Marks the final color of the shader"

end ShaderLoom.Palette
