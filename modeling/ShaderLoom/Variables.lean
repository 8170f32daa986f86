import ShaderLoom.Bands
import ShaderLoom.Catalog
import ShaderLoom.Identifier

/-!
# Output variables

Every output of every node of a known type has a variable in the generated shader.
-/

namespace ShaderLoom

/-- The variables of the outputs of nodes, by the ids of the nodes. -/
abbrev Variables := Table (Table String)

namespace Variables

/-- The variables of the outputs of one node. -/
def ofNode (node : Node) (ports : List String) : Table String :=
  Table.ofList (ports.map fun port => (port, Identifier.outputVariable node.id port))

/-- The variables of all nodes of known type.  Of two nodes with one id the later counts. -/
def generate (graph : Graph) (catalog : Catalog) (settings : Settings) : Except Fault Variables :=
  graph.nodes.foldlM (fun table node =>
    match catalog.find? node.type with
    | none => .ok table
    | some type => do
      return table.insert node.id (ofNode node (← node.outputNames type settings))) Table.empty

/-- The variables of a node; none when the node is not known. -/
def ports (table : Variables) (node : String) : Table String :=
  (table.find? node).getD Table.empty

/-- The variable of an output. -/
def lookup (table : Variables) (node port : String) : Option String :=
  (table.ports node).find? port

end Variables

end ShaderLoom
