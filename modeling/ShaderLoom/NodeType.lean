import ShaderLoom.Spelling
import ShaderLoom.Table

/-!
# Node types

A node type declares the ports and parameters of its nodes, and the templates of the code that
they run and of the helpers that this code calls.
-/

namespace ShaderLoom

/-- A typed place where a wire can end or begin. -/
structure Port where
  name : String
  type : PortType
  label : Option String
deriving Inhabited

/-- A setting of a node.  Only a float can be driven by a wire. -/
structure Parameter where
  type : ParameterType
  default : Value
  minimum : Value
  maximum : Value
  step : Value
  label : Option String
  /-- How a wired value is joined, unless the node says otherwise. -/
  mode : Option WireMode
deriving Inhabited

/-- A port whose type is spelled by a value. -/
def Port.make (depth : Nat) (name : String) (type : Value) (label : Option String) :
    Except Fault Port := do
  return ⟨name, ← PortType.ofValue depth type, label⟩

/-- A parameter whose type and mode are spelled by values. -/
def Parameter.make (depth : Nat) (type default minimum maximum step : Value)
    (label : Option String) (mode : Value) : Except Fault Parameter := do
  let type ← ParameterType.ofValue depth type
  let mode ← match mode with
    | .null => pure none
    | mode => some <$> WireMode.ofValue depth mode
  return ⟨type, default, minimum, maximum, step, label, mode⟩

/-- A kind of node. -/
structure NodeType where
  id : String
  displayName : String
  category : String
  inputs : List Port
  outputs : List Port
  parameters : Table Parameter
  /-- The template of the code that a node of this type runs. -/
  mainCode : String
  /-- The template of the helpers that the code calls. -/
  functions : Option String
  description : String
deriving Inhabited

namespace NodeType

/-- The first port of a list with the given name. -/
def findPort (ports : List Port) (name : String) : Option Port := ports.find? (·.name == name)

/-- The input with the given name. -/
def input? (type : NodeType) (name : String) : Option Port := findPort type.inputs name

/-- The output with the given name. -/
def output? (type : NodeType) (name : String) : Option Port := findPort type.outputs name

/-- The parameter with the given name. -/
def parameter? (type : NodeType) (name : String) : Option Parameter := type.parameters.find? name

/-- The type of an output; an output that is not declared is a float. -/
def outputType (type : NodeType) (name : String) : PortType :=
  ((type.output? name).map Port.type).getD .float

/-- The template of the helpers, unless it is missing or empty. -/
def helperTemplate? (type : NodeType) : Option String :=
  match type.functions with
  | none | some "" => none
  | some template => some template

end NodeType

end ShaderLoom
