import ShaderLoom.Catalog
import ShaderLoom.Palette.Arithmetic
import ShaderLoom.Palette.Audio
import ShaderLoom.Palette.Color
import ShaderLoom.Palette.Inputs
import ShaderLoom.Palette.Noise
import ShaderLoom.Palette.Output
import ShaderLoom.Palette.Vectors

/-!
# The standard catalog

The node types that come with the library.
-/

namespace ShaderLoom

/-- Every node type of the library, in the order of registration. -/
def Palette.all : List NodeType :=
  inputs ++ [finalOutput] ++ audio ++ vectors ++ arithmetic ++ noise ++ [colorMap]

/-- The catalog of the node types of the library.  Their ids differ, so that nothing is lost by
putting them into a table one after the other. -/
def Catalog.standard : Catalog := ⟨Table.ofList (Palette.all.map fun type => (type.id, type))⟩

end ShaderLoom
