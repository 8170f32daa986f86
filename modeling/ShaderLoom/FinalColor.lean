import ShaderLoom.Conversion
import ShaderLoom.Scene
import ShaderLoom.Traced

/-!
# The final color

The color of a shader is what the wire into the sink carries, the sink being the node that marks
the final color.  Without a sink, the last node that makes a color is shown, else the last node
that makes anything but a truth.  When there is nothing to show, the shader is black.
-/

namespace ShaderLoom

/-- The expression of the color of a shader, and the node that it comes from. -/
structure FinalColor where
  expression : String
  node : Option String
deriving DecidableEq, Inhabited

/-- The color of a shader that shows nothing. -/
def black : String := "vec3(0.0)"

namespace Scene

/-! ### The sink -/

/-- The nodes that mark the final color. -/
def sinks (scene : Scene) : List String :=
  (scene.graph.nodes.filter fun node =>
    node.type == scene.settings.sinkType && (scene.catalog.find? node.type).isSome).map Node.id

/-- The first of the given nodes that runs last; a node outside the order comes before all. -/
def latest (scene : Scene) (first : String) (others : List String) : String :=
  let place (id : String) : Int := match scene.position? id with
    | some i => i
    | none => -1
  others.foldl (fun best id => if place best < place id then id else best) first

/-- The node that marks the final color.  Of several, the first from which no wire leads is taken,
else the one that runs last. -/
def sink? (scene : Scene) : Option String :=
  match scene.sinks with
  | [] => none
  | [only] => some only
  | first :: others =>
    match (first :: others).find? fun id => !scene.graph.sources.contains id with
    | some id => some id
    | none => some (scene.latest first others)

/-- The input of a sink that the color is read from. -/
def colorPort (scene : Scene) (type : NodeType) : String :=
  match type.input? scene.settings.sinkPort, type.inputs with
  | none, first :: _ => first.name
  | _, _ => scene.settings.sinkPort

/-- The color that the last wire into a sink carries. -/
def sinkColor (scene : Scene) (sink : String) : Traced String :=
  match scene.typeOf? sink with
  | none => Traced.fail .untypedSink
  | some type =>
    let wires := (scene.graph.dataWires sink).filter fun (_, port) => port = scene.colorPort type
    match wires.getLast? with
    | none => do
      Traced.remark ("Output node " ++ sink ++ " has nothing connected; rendering black")
      return black
    | some (wire, _) =>
      match scene.typeOf? wire.source, scene.variableNames.lookup wire.source wire.sourcePort with
      | some sourceType, some name =>
        Traced.lift (Conversion.toColor name (sourceType.outputType wire.sourcePort))
      | _, _ => do
        Traced.remark ("Output node " ++ sink ++ " reads unknown " ++ wire.source ++ "."
          ++ wire.sourcePort ++ "; rendering black")
        return black

/-! ### Without a sink -/

/-- The outputs of a node that have variables, each with its type and its variable. -/
def shownOutputs (scene : Scene) (id : String) :
    Except Fault (List (String × PortType × String)) :=
  match scene.node? id, scene.typeOf? id with
  | some node, some type => do
    let names ← node.outputNames type scene.settings
    return names.filterMap fun port =>
      ((scene.variableNames.ports id).find? port).map fun name => (port, type.outputType port, name)
  | _, _ => .ok []

/-- The output called `out` if there is one, else the first. -/
def preferredOutput : List (String × PortType × String) → Option (String × PortType × String)
  | [] => none
  | first :: rest => some (((first :: rest).find? fun output => output.1 == "out").getD first)

/-- The color of the first of the given nodes that has an output of a type in the class `p`. -/
def colorFrom? (scene : Scene) (p : PortType → Bool) :
    List String → Except Fault (Option FinalColor)
  | [] => .ok none
  | id :: rest => do
    let outputs ← scene.shownOutputs id
    match preferredOutput (outputs.filter fun output => p output.2.1) with
    | some (_, type, name) => return some ⟨← Conversion.toColor name type, some id⟩
    | none => scene.colorFrom? p rest

/-- The color of a shader without a sink. -/
def fallbackColor (scene : Scene) : Traced FinalColor := do
  match ← scene.colorFrom? PortType.isColor scene.order.reverse with
  | some color => return color
  | none =>
    match ← scene.colorFrom? (· != .bool) scene.order.reverse with
    | some color => return color
    | none =>
      Traced.remark "No node produces a color; rendering black"
      return ⟨black, none⟩

/-- The color of the shader. -/
def finalColor (scene : Scene) : Traced FinalColor :=
  match scene.sink? with
  | some sink => do return ⟨← scene.sinkColor sink, some sink⟩
  | none => scene.fallbackColor

end Scene

end ShaderLoom
