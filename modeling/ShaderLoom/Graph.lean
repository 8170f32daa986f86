import ShaderLoom.NodeType

/-!
# Node graphs

Nodes joined by wires.  A wire leads from an output of a node to an input or to a parameter of a
node.  Nothing forces a wire's ends to exist, nor the ids of nodes to differ.
-/

namespace ShaderLoom

/-- A node: its id, the id of its type, and what its author set. -/
structure Node where
  id : String
  type : String
  values : Table Value
  /-- The wire modes that the author set, by the texts that they were written in. -/
  modes : Table String
deriving Inhabited

namespace Node

/-- The value that the author gave a parameter. -/
def value? (node : Node) (name : String) : Option Value :=
  (node.values.find? name).bind Value.given?

/-- The value of a parameter: the author's, else the default of the node type. -/
def valueOr (node : Node) (name : String) (parameter : Parameter) : Value :=
  (node.value? name).getD parameter.default

/-- The value of a parameter, which is zero when neither the author nor the node type gives one. -/
def settledValue (node : Node) (name : String) (parameter : Parameter) : Value :=
  match node.valueOr name parameter with
  | .null => parameter.type.zero
  | value => value

/-- The mode that the author gave a parameter, as written. -/
def writtenMode? (node : Node) (name : String) : Option String := node.modes.find? name

/-- How a wire into a parameter is joined with the parameter's value: the author's mode, else the
mode of the node type.  A mode that is not known replaces the value. -/
def mode (node : Node) (name : String) (parameter : Option Parameter) : WireMode :=
  match node.writtenMode? name with
  | some written => match WireMode.ofText written with
    | .ok mode => mode
    | .error _ => .override
  | none => (parameter.bind Parameter.mode).getD .override

end Node

/-- Where a wire ends. -/
inductive Target where
  | port (name : String)
  | parameter (name : String)
deriving DecidableEq, Inhabited

/-- A wire from an output of one node to another node. -/
structure Wire where
  source : String
  sourcePort : String
  node : String
  target : Target
deriving DecidableEq, Inhabited

namespace Wire

/-- A wire that leads to the given port or parameter, of which exactly one must be given. -/
def make (source sourcePort node : String) (port parameter : Option String) :
    Except Fault Wire :=
  match port, parameter with
  | some name, none => .ok ⟨source, sourcePort, node, .port name⟩
  | none, some name => .ok ⟨source, sourcePort, node, .parameter name⟩
  | _, _ => .error (.wireTarget source sourcePort node)

/-- The input that a wire leads to. -/
def port? (wire : Wire) : Option String :=
  match wire.target with
  | .port name => some name
  | .parameter _ => none

/-- The parameter that a wire leads to. -/
def parameter? (wire : Wire) : Option String :=
  match wire.target with
  | .port _ => none
  | .parameter name => some name

end Wire

/-- Nodes and wires, in the order in which they were added. -/
structure Graph where
  nodes : List Node
  wires : List Wire
deriving Inhabited

namespace Graph

/-- The wires into inputs of a node, each with the input. -/
def dataWires (graph : Graph) (node : String) : List (Wire × String) :=
  graph.wires.filterMap fun wire =>
    if wire.node = node then wire.port?.map (wire, ·) else none

/-- The wires into parameters of a node, each with the parameter. -/
def parameterWires (graph : Graph) (node : String) : List (Wire × String) :=
  graph.wires.filterMap fun wire =>
    if wire.node = node then wire.parameter?.map (wire, ·) else none

/-- The nodes from which a wire leads. -/
def sources (graph : Graph) : List String := graph.wires.map Wire.source

/-- The last node with the given id. -/
def node? (graph : Graph) (id : String) : Option Node := graph.nodes.reverse.find? (·.id == id)

end Graph

end ShaderLoom
