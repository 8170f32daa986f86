import ShaderLoom.Bands
import ShaderLoom.Catalog
import ShaderLoom.Identifier
import ShaderLoom.Text.Digit
import ShaderLoom.Text.Start

/-!
# Allocating uniforms

The host drives a shader through uniforms.  Every audio output has one.  A parameter has one unless
it is an array or a string, is read by the host alone, or is replaced by a wire.
-/

namespace ShaderLoom.Uniform

/-- The name under which a parameter or output of a node stands in the table of uniforms. -/
def key (node name : String) : String := node ++ "." ++ name

/-- The outputs of a node that the host measures. -/
def audioOutputs (node : Node) (type : NodeType) (settings : Settings) :
    Except Fault (List String) :=
  if type.category = settings.audioCategory then
    if type.id = settings.audioFileType then .ok (type.outputs.map Port.name)
    else if type.id = settings.audioAnalyzerType then do
      return analyzerPorts (← node.bands type settings).length
    else .ok []
  else .ok []

/-- Whether a name is that of a bound of a remapped band; a newline may follow it. -/
def isRemapBound (name : String) : Bool :=
  match Text.after? "band".toList name.toList with
  | none => false
  | some rest =>
    let digits := rest.takeWhile Text.isDecimalDigit
    let bound := String.ofList (rest.dropWhile Text.isDecimalDigit)
    !digits.isEmpty && ["RemapInMin", "RemapInMax", "RemapOutMin", "RemapOutMax"].any fun word =>
      bound == word || bound == word ++ "\n"

/-- Whether a parameter of an audio node is read by the host and not by the shader. -/
def isHostParameter (type : NodeType) (settings : Settings) (name : String) : Bool :=
  type.category == settings.audioCategory
    && (settings.hostParameters.contains name || isRemapBound name)

/-- Whether a wire leads into a parameter of a node. -/
def isWired (graph : Graph) (node name : String) : Bool :=
  graph.wires.any fun wire => wire.node == node && wire.parameter? == some name

/-- Whether a parameter of a node has a uniform. -/
def hasUniform (graph : Graph) (settings : Settings) (node : Node) (type : NodeType)
    (name : String) (parameter : Parameter) : Bool :=
  parameter.type != .array && parameter.type != .string
    && !isHostParameter type settings name
    && !(isWired graph node.id name && node.mode name (some parameter) == .override)

/-- The names of a node that have a uniform: audio outputs, then parameters. -/
def namesOf (graph : Graph) (settings : Settings) (node : Node) (type : NodeType) :
    Except Fault (List String) := do
  let outputs ← audioOutputs node type settings
  let parameters := type.parameters.entries.filter fun (name, parameter) =>
    hasUniform graph settings node type name parameter
  return outputs ++ parameters.map Prod.fst

/-- The uniforms of all nodes of known type. -/
def allocate (graph : Graph) (catalog : Catalog) (settings : Settings) :
    Except Fault (Table String) :=
  graph.nodes.foldlM (fun table node =>
    match catalog.find? node.type with
    | none => .ok table
    | some type => do
      let names ← namesOf graph settings node type
      return names.foldl (fun table name =>
        table.insert (key node.id name) (Identifier.uniform node.id name)) table) Table.empty

end ShaderLoom.Uniform
