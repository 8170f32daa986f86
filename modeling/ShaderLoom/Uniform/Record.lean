import ShaderLoom.Text.Word
import ShaderLoom.Uniform.Allocation

/-!
# Uniform records

What the host has to know about each uniform of a shader, and the declarations of the uniforms in
shader code.
-/

namespace ShaderLoom.Uniform

/-- A uniform of a shader: where it comes from and the value that it begins with. -/
structure Record where
  name : String
  node : String
  parameter : String
  /-- The keyword of its type in shader code. -/
  type : String
  initial : Value
  isAudio : Bool
deriving Inhabited

/-- The names among the uniforms of a table that occur as whole words in shader code. -/
def used (code : List Char) (table : Table String) : List String :=
  Text.sortedSet (table.values.filter fun name => Text.occursWhole name.toList none code)

/-- The value that a parameter's uniform begins with, if the parameter's value is of its type. -/
def initial? (value : Value) : ParameterType → Except NumberFault Value
  | .vec4 => match value.components? with
    | none => .error .notNumeric
    | some components => do return .list ((← components.mapM Value.toDouble).map .number)
  | .int => do return .int (← value.toInteger)
  | _ => do return .number (← value.toDouble)

/-- The value that a parameter's uniform begins with; zero when the parameter's value is of no
use. -/
def initial (node : Node) (name : String) (parameter : Parameter) : Value :=
  match initial? (node.settledValue name parameter) parameter.type with
  | .ok value => value
  | .error _ => parameter.type.zero

/-- A name that is not empty. -/
def nonempty? : Option String → Option String
  | none | some "" => none
  | some name => some name

/-- The records of the audio outputs of a node. -/
def audioRecords (table : Table String) (node : Node) (outputs : List String) : List Record :=
  outputs.filterMap fun port =>
    (nonempty? (table.find? (key node.id port))).map fun name =>
      ⟨name, node.id, port, "float", .number Double.zero, true⟩

/-- The records of the parameters of a node whose uniforms pass `keep`. -/
def parameterRecords (table : Table String) (keep : String → Bool) (node : Node) (type : NodeType) :
    List Record :=
  type.parameters.entries.filterMap fun (name, parameter) =>
    match nonempty? (table.find? (key node.id name)) with
    | none => none
    | some uniform =>
      if parameter.type == .array || !keep uniform then none
      else some ⟨uniform, node.id, name, parameter.type.uniformKeyword,
        initial node name parameter, false⟩

/-- The records of all uniforms: those of audio outputs, and those of parameters that are used.
All parameters count as used when `used` is absent. -/
def records (graph : Graph) (catalog : Catalog) (table : Table String) (used : Option (List String))
    (settings : Settings) : Except Fault (List Record) := do
  let keep (name : String) : Bool := match used with
    | none => true
    | some names => names.contains name
  let perNode ← graph.nodes.mapM fun node =>
    match catalog.find? node.type with
    | none => .ok []
    | some type => do
      let outputs ← audioOutputs node type settings
      return audioRecords table node outputs ++ parameterRecords table keep node type
  return perNode.flatten

/-- The declarations of uniforms, given by type and name: sorted, each line once. -/
def declarations (uniforms : List (String × String)) : String :=
  "\n".intercalate (Text.sortedSet (uniforms.map fun (type, name) =>
    "uniform " ++ type ++ " " ++ name ++ ";"))

end ShaderLoom.Uniform
