import ShaderLoom.Diagnostics
import ShaderLoom.Shader
import ShaderLoom.Specialization

/-!
# Compiling a graph

A graph becomes one fragment shader.  Uniforms are allocated and helpers specialized, unless the
caller brings tables of their own.
-/

namespace ShaderLoom

/-- What is to be compiled. -/
structure Request where
  graph : Graph
  catalog : Catalog
  settings : Settings
  /-- The ids of nodes in the order in which they run. -/
  order : List String
  /-- The uniforms, if the caller names them. -/
  uniforms : Option (Table String)
  /-- The new names of helpers, if the caller gives them. -/
  renames : Option (Table (Table String))
deriving Inhabited

/-- A compiled shader, and what its host has to know about it. -/
structure Compiled where
  shader : String
  uniforms : List Uniform.Record
  order : List String
  finalNode : Option String
  uniformNames : Table String
  renames : Table (Table String)
deriving Inhabited

/-- A compilation: how it ended, what was found amiss, and what was written to the log. -/
structure Compilation where
  outcome : Except Fault Compiled
  diagnostics : Diagnostics
  log : List LogLine

/-- The nodes of a graph of several that no wire touches. -/
def Graph.loose (graph : Graph) : List Node :=
  if graph.nodes.length < 2 then []
  else graph.nodes.filter fun node =>
    !(graph.wires.any fun wire => wire.source == node.id || wire.node == node.id)

namespace Request

/-- The scene of a request before helpers are specialized. -/
def scene (request : Request) : Except Fault Scene := do
  let uniforms ← match request.uniforms with
    | some table => pure table
    | none => Uniform.allocate request.graph request.catalog request.settings
  let variableNames ← Variables.generate request.graph request.catalog request.settings
  return {
    graph := request.graph
    catalog := request.catalog
    variableNames
    order := request.order
    uniforms
    renames := Table.empty
    settings := request.settings }

/-- The new names of helpers: the caller's, or planned for the scene. -/
def plan (request : Request) (scene : Scene) : Traced (Table (Table String)) :=
  match request.renames with
  | some renames => pure renames
  | none => scene.plan.inStage .planning

/-- The remark on a node that no wire touches. -/
def looseRemark (node : Node) : Traced Unit :=
  Traced.remark ("Node " ++ node.id ++ " (" ++ node.type ++ ") is not connected to anything")

/-- The shader of a request, with all remarks. -/
def shader (request : Request) : Traced Compiled := do
  Traced.remarkIf request.graph.nodes.isEmpty "Graph is empty; rendering black"
  let scene ← request.scene
  request.graph.loose.forM looseRemark
  let renames ← request.plan scene
  let scene := { scene with renames }
  let program ← scene.program
  let color ← scene.finalColor
  let used := Uniform.used (program.mainCode ++ "\n" ++ program.helpers).toList scene.uniforms
  let records ← Uniform.records request.graph request.catalog scene.uniforms (some used)
    request.settings
  let uniforms := Uniform.declarations (records.map fun record => (record.type, record.name))
  return {
    shader := shaderText request.settings uniforms program color.expression
    uniforms := records
    order := request.order
    finalNode := color.node
    uniformNames := scene.uniforms
    renames }

end Request

/-! ### Diagnostics of a compilation -/

/-- What the remarks of a compilation leave behind: the diagnostics of its author, those of the
planning, which nobody reads, and the log that both write. -/
structure Notes where
  diagnostics : Diagnostics
  planning : Diagnostics
  log : List LogLine

namespace Notes

/-- Nothing was noted yet. -/
def empty : Notes := ⟨Diagnostics.empty, Diagnostics.empty, []⟩

/-- Notes one remark. -/
def add (notes : Notes) (remark : Remark) : Notes :=
  match remark.stage with
  | .generation =>
    let (diagnostics, lines) := notes.diagnostics.warn remark.message
    { notes with diagnostics, log := notes.log ++ lines }
  | .planning =>
    let (planning, lines) := notes.planning.warn remark.message
    { notes with planning, log := notes.log ++ lines }

/-- The notes of several remarks. -/
def ofRemarks (remarks : List Remark) : Notes := remarks.foldl add empty

end Notes

/-- The diagnostics that remarks leave with an author. -/
def Diagnostics.ofRemarks (remarks : List Remark) : Diagnostics :=
  (Notes.ofRemarks remarks).diagnostics

/-- The message of a conversion that is not possible, with its node. -/
def conversionNotice (source target : PortType) (node : Option String) : String :=
  Fault.conversionMessage source target ++ match Uniform.nonempty? node with
    | some id => " (node " ++ id ++ ")"
    | none => ""

/-- Compiles a graph.  A conversion that is not possible is kept as an error. -/
def compile (request : Request) : Compilation :=
  let traced := request.shader
  let notes := Notes.ofRemarks traced.remarks
  match traced.outcome with
  | .ok compiled =>
    ⟨.ok compiled, notes.diagnostics, notes.log ++ [notes.diagnostics.summary .debug]⟩
  | .error (.conversion source target node) =>
    let (diagnostics, lines) := notes.diagnostics.error (conversionNotice source target node)
    ⟨.error (.conversion source target node), diagnostics, notes.log ++ lines⟩
  | .error fault => ⟨.error fault, notes.diagnostics, notes.log⟩

end ShaderLoom
