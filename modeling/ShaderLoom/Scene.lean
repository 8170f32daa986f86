import ShaderLoom.Uniform.Record
import ShaderLoom.Variables

/-!
# Scenes

Everything that the nodes of a graph share while their code is generated: the graph and its node
types, the order in which nodes run, and the names given to outputs, uniforms and helpers.
-/

namespace ShaderLoom

/-- What is shared by all nodes of one shader. -/
structure Scene where
  graph : Graph
  catalog : Catalog
  variableNames : Variables
  /-- The ids of nodes in the order in which they run. -/
  order : List String
  uniforms : Table String
  /-- The new names of helpers, by the ids of nodes. -/
  renames : Table (Table String)
  settings : Settings
deriving Inhabited

/-- The place of the last occurrence of `id`. -/
def lastPosition (id : String) : List String → Option Nat
  | [] => none
  | first :: rest =>
    match lastPosition id rest with
    | some i => some (i + 1)
    | none => if first = id then some 0 else none

namespace Scene

/-- The place of a node in the order; its last one if there are several. -/
def position? (scene : Scene) (id : String) : Option Nat := lastPosition id scene.order

/-- The node with the given id. -/
def node? (scene : Scene) (id : String) : Option Node := scene.graph.node? id

/-- The type of the node with the given id. -/
def typeOf? (scene : Scene) (id : String) : Option NodeType :=
  (scene.node? id).bind fun node => scene.catalog.find? node.type

/-- The uniform of a parameter or audio output of a node. -/
def uniform? (scene : Scene) (node name : String) : Option String :=
  Uniform.nonempty? (scene.uniforms.find? (Uniform.key node name))

/-- The new names of the helpers of a node, in order. -/
def renamesOf (scene : Scene) (node : String) : List (String × String) :=
  ((scene.renames.find? node).map Table.entries).getD []

/-- The ids of the order, then those of the other nodes of the graph. -/
def emissionOrder (scene : Scene) : List String :=
  scene.order ++ (scene.graph.nodes.map Node.id).filter fun id => !scene.order.contains id

end Scene

end ShaderLoom
