import ShaderLoom.Emission
import ShaderLoom.Helper.Basic

/-!
# The code of all nodes

Every output of every node is declared as a global variable first, so that a node can read any
other.  Then follows one block per node, in the order in which the nodes run.  The helpers of all
nodes are collected, one for each signature.
-/

namespace ShaderLoom

/-! ### Declarations -/

/-- A global variable that begins as zero. -/
structure Declaration where
  type : PortType
  name : String
deriving DecidableEq, Inhabited

/-- The line that declares a variable. -/
def Declaration.text (declaration : Declaration) : String :=
  declaration.type.keyword ++ " " ++ declaration.name ++ " = " ++ declaration.type.zeroText ++ ";"

/-- Whether a variable is declared. -/
def isDeclared (declared : List Declaration) (name : String) : Bool :=
  declared.any fun declaration => declaration.name == name

/-- The declarations with those of the outputs of one node, unless their variables are declared
already. -/
def declareOutputs (type : NodeType) (table : Table String) (declared : List Declaration) :
    List String → List Declaration
  | [] => declared
  | port :: rest =>
    match table.find? port with
    | none => declareOutputs type table declared rest
    | some name =>
      declareOutputs type table
        (if isDeclared declared name then declared
          else declared ++ [⟨type.outputType port, name⟩]) rest

namespace Scene

/-- The declarations with those of one node. -/
def declareNode (scene : Scene) (declared : List Declaration) (node : Node) :
    Traced (List Declaration) :=
  match scene.catalog.find? node.type with
  | none => do
    Traced.remark ("Unknown node type '" ++ node.type ++ "' for node " ++ node.id ++ "; skipped")
    return declared
  | some type =>
    let table := scene.variableNames.ports node.id
    if table.isEmpty && !type.outputs.isEmpty then do
      Traced.remark ("No variables generated for " ++ node.type ++ " (" ++ node.id ++ ")")
      return declared
    else do
      return declareOutputs type table declared (← node.outputNames type scene.settings)

/-- The declarations with that of the source of a wire, if it was missed so far. -/
def declareSource (scene : Scene) (declared : List Declaration) (wire : Wire) :
    Traced (List Declaration) :=
  match scene.variableNames.lookup wire.source wire.sourcePort, scene.typeOf? wire.source with
  | some name, some type =>
    if isDeclared declared name then pure declared
    else do
      Traced.remark ("Force-declared missing variable " ++ name ++ " for " ++ wire.source)
      return declared ++ [⟨type.outputType wire.sourcePort, name⟩]
  | _, _ => pure declared

/-- The declarations of all output variables. -/
def declarations (scene : Scene) : Traced (List Declaration) := do
  let declared ← scene.graph.nodes.foldlM scene.declareNode []
  scene.graph.wires.foldlM scene.declareSource declared

end Scene

/-! ### Blocks -/

/-- The code of one node inside the main function. -/
structure Block where
  displayName : String
  node : String
  /-- The lines of the code, not indented. -/
  code : List (List Char)
deriving DecidableEq, Inhabited

/-- The lines of a block: a comment, and the code in braces. -/
def Block.lines (block : Block) : List String :=
  ["  // Node: " ++ block.displayName ++ " (" ++ block.node ++ ")", "  \x7b"]
    ++ block.code.map (fun line => if Text.allBlank line then "" else "    " ++ String.ofList line)
    ++ ["  \x7d", ""]

namespace Scene

/-- The block of one node of the order; `none` if the node has no code. -/
def block? (scene : Scene) (id : String) : Traced (Option Block) :=
  match Scope.of? scene id with
  | none =>
    match scene.node? id with
    | none => do
      Traced.remark ("Execution order names unknown node " ++ id ++ "; skipped")
      return none
    | some _ => pure none
  | some scope => do
    match ← scope.body with
    | none => return none
    | some code =>
      if Text.allBlank code then return none
      return some ⟨scope.type.displayName, id, Text.lines (Text.trimNewlines code)⟩

/-- The blocks of all nodes of the order that have code. -/
def blocks (scene : Scene) : Traced (List Block) := do
  return (← scene.order.mapM scene.block?).filterMap id

/-! ### Helpers -/

/-- The helpers of all nodes, one for each signature. -/
def helpers (scene : Scene) : Traced (List Helper) := do
  let blocks ← (scene.emissionOrder.filterMap (Scope.of? scene)).mapM Scope.helperCode
  return Helper.distinct (blocks.filterMap id)

end Scene

/-! ### Everything together -/

/-- The sections of a shader that nodes bring in. -/
structure Program where
  declarations : String
  mainCode : String
  helpers : String
deriving DecidableEq, Inhabited

/-- The sections of the shader of a scene. -/
def Scene.program (scene : Scene) : Traced Program := do
  let declarations ← scene.declarations
  let blocks ← scene.blocks
  let helpers ← scene.helpers
  return {
    declarations := "\n".intercalate (declarations.map Declaration.text)
    mainCode := "\n".intercalate (blocks.flatMap Block.lines)
    helpers := "\n\n".intercalate (helpers.map fun helper => String.ofList helper.text) }

end ShaderLoom
