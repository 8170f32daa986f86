import ShaderLoom.Conversion
import ShaderLoom.Literal
import ShaderLoom.Scene
import ShaderLoom.Template.Render
import ShaderLoom.Traced

/-!
# Scopes

What the placeholders in the templates of one node stand for.  An input stands for the variable of
the wire into it, converted to the type of the input; a parameter stands for its wire, its uniform
or its value; an array parameter stands for a constant.  What cannot be resolved is replaced by a
zero, and a remark is made.
-/

namespace ShaderLoom

/-- A node whose templates are filled. -/
structure Scope where
  scene : Scene
  node : Node
  type : NodeType
deriving Inhabited

namespace Scope

/-- The scope of a node of the scene, if the node and its type are known. -/
def of? (scene : Scene) (id : String) : Option Scope :=
  (scene.node? id).bind fun node =>
    (scene.catalog.find? node.type).map fun type => { scene, node, type }

/-- Whether the node reads no input, so that inputs without a wire stay unresolved. -/
def isSelfSufficient (scope : Scope) : Bool :=
  scope.type.category == scope.scene.settings.inputCategory
    || scope.scene.settings.selfSufficientTypes.contains scope.type.id

/-! ### Data wires -/

/-- The type of an output of a node.  An analyzer may have more outputs than its type declares. -/
def sourceType? (scene : Scene) (id : String) (type : NodeType) (port : String) :
    Option PortType :=
  match type.output? port with
  | some output => some output.type
  | none =>
    if (scene.variableNames.lookup id port).isSome
        && type.id == scene.settings.audioAnalyzerType then some .float
    else none

/-- The table of inputs with the wire into `port` resolved, if its two ends are known. -/
def addInput (scope : Scope) (resolved : Table String) (wire : Wire) (port : String) :
    Traced (Table String) := do
  let place := scope.node.id ++ "." ++ port
  let origin := wire.source ++ "." ++ wire.sourcePort
  match scope.type.input? port with
  | none =>
    Traced.remark ("Connection into unknown input " ++ place ++ "; ignored")
    return resolved
  | some input =>
  match scope.scene.typeOf? wire.source with
  | none =>
    Traced.remark ("Source node " ++ wire.source ++ " of " ++ place ++ " has no spec; ignored")
    return resolved
  | some sourceType =>
  match sourceType? scope.scene wire.source sourceType wire.sourcePort with
  | none =>
    Traced.remark ("Unknown output " ++ origin ++ "; ignored")
    return resolved
  | some type =>
  match scope.scene.variableNames.lookup wire.source wire.sourcePort with
  | none =>
    Traced.remark ("No variable for " ++ origin ++ " -> " ++ place ++ "; using default")
    return resolved
  | some name =>
    Traced.remarkIf (resolved.contains port)
      ("Multiple connections into " ++ place ++ "; the last one wins")
    let expr ← Conversion.convert (some scope.node.id) name type input.type
    return resolved.insert port expr

/-- The expressions of the inputs: that of the last usable wire, else zero. -/
def inputs (scope : Scope) : Traced (Table String) := do
  let wired ← (scope.scene.graph.dataWires scope.node.id).foldlM
    (fun resolved (wire, port) => scope.addInput resolved wire port) Table.empty
  if scope.isSelfSufficient then return wired
  return scope.type.inputs.foldl
    (fun resolved port => resolved.insertNew port.name port.type.zeroText) wired

/-! ### Parameter wires -/

/-- The place before which a source has to run: that of the node, or the end of the order. -/
def deadline (scope : Scope) : Nat :=
  (scope.scene.position? scope.node.id).getD scope.scene.order.length

/-- The variable that a parameter wire reads, which is named even if it is not known. -/
def sourceVariable (scope : Scope) (wire : Wire) : Traced String :=
  match scope.scene.variableNames.lookup wire.source wire.sourcePort with
  | some name => pure name
  | none => do
    let name := Identifier.outputVariable wire.source wire.sourcePort
    Traced.remark ("No variable for " ++ wire.source ++ "." ++ wire.sourcePort ++ "; using "
      ++ name)
    return name

/-- The table of parameter wires with one more wire, if its two ends are known, its source runs
before the node, and later than the source of the wire that was chosen so far. -/
def addParameterWire (scope : Scope) (chosen : Table (Nat × String)) (wire : Wire)
    (parameter : String) : Traced (Table (Nat × String)) := do
  let place := scope.node.id ++ "." ++ parameter
  let origin := wire.source ++ "." ++ wire.sourcePort
  if ((scope.type.parameter? parameter).map Parameter.type) ≠ some .float then
    Traced.remark ("Parameter wire into " ++ place
      ++ " ignored: only float parameters accept connections")
    return chosen
  match scope.scene.typeOf? wire.source with
  | none =>
    Traced.remark ("Parameter wire into " ++ place ++ " ignored: source node " ++ wire.source
      ++ " has no spec")
    return chosen
  | some sourceType =>
  match sourceType? scope.scene wire.source sourceType wire.sourcePort with
  | none =>
    Traced.remark ("Unknown output " ++ origin ++ "; ignored")
    return chosen
  | some type =>
  match scope.scene.position? wire.source with
  | none => return chosen
  | some position =>
    if scope.deadline ≤ position then return chosen
    if ((chosen.find? parameter).map Prod.fst).any (position ≤ ·) then return chosen
    let name ← scope.sourceVariable wire
    let expr ← Conversion.toParameter (some scope.node.id) name type
    return chosen.insert parameter (position, expr)

/-- The expressions of the wires into float parameters.  Of several wires, the one whose source
runs last before the node counts. -/
def parameterWires (scope : Scope) : Traced (Table String) := do
  let chosen ← (scope.scene.graph.parameterWires scope.node.id).foldlM
    (fun chosen (wire, parameter) => scope.addParameterWire chosen wire parameter) Table.empty
  return chosen.map Prod.snd

/-! ### Array constants -/

/-- A constant that holds an array parameter. -/
structure ArrayConstant where
  parameter : String
  name : String
  entries : List Double
deriving Inhabited

/-- The array parameters of a node: the constants, the parameters whose values are no arrays, and
the fault that ended the search, if there was one. -/
structure Arrays where
  constants : List ArrayConstant
  malformed : List String
  fault : Option NumberFault
deriving Inhabited

/-- The array parameters among the given ones. -/
def findArrays (node : Node) : List (String × Parameter) → Arrays
  | [] => ⟨[], [], none⟩
  | (name, parameter) :: rest =>
    if parameter.type = .array then
      let value := node.valueOr name parameter
      match Literal.arrayEntries value with
      | .error cause => ⟨[], [], some cause⟩
      | .ok none =>
        let found := findArrays node rest
        if value.isNull then found else { found with malformed := name :: found.malformed }
      | .ok (some []) => findArrays node rest
      | .ok (some entries) =>
        let found := findArrays node rest
        let constant := ⟨name, Identifier.arrayConstant node.id name, entries⟩
        { found with constants := constant :: found.constants }
    else findArrays node rest

/-- The array parameters of the node, as far as they can be read. -/
def foundArrays (scope : Scope) : Arrays := findArrays scope.node scope.type.parameters.entries

/-- The array parameters of the node. -/
def arrays (scope : Scope) : Except Fault Arrays :=
  match scope.foundArrays.fault with
  | some cause => .error (.arrayEntry cause)
  | none => .ok scope.foundArrays

/-- The declarations of array constants. -/
def declareArrays (scope : Scope) (arrays : Arrays) : Except Fault (List String) :=
  arrays.constants.mapM fun constant =>
    Literal.arrayDeclaration constant.name constant.entries scope.scene.settings.arrayPlaces

/-- The declarations of the array constants of the node. -/
def arrayDeclarations (scope : Scope) : Except Fault (List String) := do
  scope.declareArrays (← scope.arrays)

/-! ### Parameters -/

/-- The value of a parameter, as a literal of its type. -/
def literal (scope : Scope) (name : String) (parameter : Parameter) : Except Fault String :=
  (Literal.ofParameter (scope.node.settledValue name parameter) parameter.type).mapError .number

/-- The uniform of a parameter that is joined with a wire, else its literal. -/
def joinedValue (scope : Scope) (name : String) (parameter : Parameter) (mode : WireMode) :
    Traced String :=
  match scope.scene.uniform? scope.node.id name with
  | some uniform => pure uniform
  | none => do
    Traced.remark ("No uniform for " ++ scope.node.id ++ "." ++ name ++ " in '" ++ mode.keyword
      ++ "' mode; using its literal value")
    scope.literal name parameter

/-- What a parameter stands for that the node type does not declare: the number that its author
gave it, else zero. -/
def undeclaredParameter (scope : Scope) (name : String) : Traced String := do
  Traced.remark ("Unresolved parameter $" ++ name ++ " on " ++ scope.node.id ++ " ("
    ++ scope.type.id ++ "); substituting a literal")
  match scope.node.value? name with
  | some (.int i) => (writtenInt i).mapError Fault.unwritable
  | some (.number x) => return Literal.ofDouble x
  | _ => return "0.0"

/-- The mode of a wired parameter.  A mode that is not known is remarked on. -/
def modeOf (scope : Scope) (name : String) (parameter : Parameter) : Traced WireMode := do
  let mode := scope.node.mode name (some parameter)
  match scope.node.writtenMode? name with
  | none => return mode
  | some written =>
    Traced.remarkIf (lowerCase written != mode.keyword)
      ("Unknown input mode " ++ quote written ++ " for " ++ scope.node.id ++ "." ++ name
        ++ "; using " ++ mode.keyword)
    return mode

/-- What a parameter of a numeric type stands for among the given parameter wires. -/
def readNumber (scope : Scope) (wires : Table String) (name : String) (parameter : Parameter) :
    Traced String :=
  match wires.find? name with
  | some wire => do
    let mode ← scope.modeOf name parameter
    if mode = .override then return wire
    let value ← scope.joinedValue name parameter mode
    return "(" ++ value ++ " " ++ mode.operator ++ " " ++ wire ++ ")"
  | none =>
    match scope.scene.uniform? scope.node.id name with
    | some uniform => return uniform
    | none => scope.literal name parameter

/-- What a parameter of a numeric type stands for. -/
def numericParameter (scope : Scope) (name : String) (parameter : Parameter) : Traced String := do
  scope.readNumber (← scope.parameterWires) name parameter

/-- What an array parameter stands for among the given arrays: its constant, or zero if it has
none. -/
def readArray (scope : Scope) (arrays : Arrays) (name : String) (index : Option String) :
    Traced String :=
  match arrays.constants.find? (·.parameter == name), index with
  | some constant, none => return constant.name
  | some constant, some index => return constant.name ++ "[" ++ index ++ "]"
  | none, _ => do
    let problem := if arrays.malformed.contains name then "malformed" else "empty"
    Traced.remark ("Array parameter " ++ scope.node.id ++ "." ++ name ++ " is " ++ problem
      ++ "; using 0.0")
    return "0.0"

/-- What an array parameter stands for. -/
def arrayParameter (scope : Scope) (name : String) (index : Option String) : Traced String := do
  scope.readArray (← scope.arrays) name index

/-! ### Placeholders -/

/-- What an input stands for among the given expressions. -/
def readInput (scope : Scope) (exprs : Table String) (port : String) : Traced String :=
  match exprs.find? port with
  | some expr => return expr
  | none => do
    Traced.remark ("Input " ++ scope.node.id ++ "." ++ port ++ " is not available; using zero")
    return ((scope.type.input? port).map fun input => input.type.zeroText).getD "0.0"

/-- What an input stands for. -/
def input (scope : Scope) (port : String) : Traced String := do
  scope.readInput (← scope.inputs) port

/-- What an output stands for. -/
def output (scope : Scope) (port : String) : Traced String := do
  match scope.scene.variableNames.lookup scope.node.id port with
  | some name => return name
  | none =>
    let name := Identifier.outputVariable scope.node.id port
    Traced.remark ("No variable for output " ++ scope.node.id ++ "." ++ port ++ "; using "
      ++ name)
    return name

/-- What a parameter stands for, with an index if one is given. -/
def param (scope : Scope) (name : String) (index : Option String) : Traced String :=
  match scope.type.parameter? name with
  | none => scope.undeclaredParameter name
  | some parameter =>
    match parameter.type with
    | .array => scope.arrayParameter name index
    | .string => do
      Traced.remark ("String parameter " ++ scope.node.id ++ "." ++ name
        ++ " cannot be used in GLSL; using 0.0")
      return "0.0"
    | .float | .int | .vec4 => do
      let expr ← scope.numericParameter name parameter
      match index with
      | none => return expr
      | some index => return expr ++ "[" ++ index ++ "]"

/-- What a global value is called. -/
def global (scope : Scope) : Template.Global → String
  | .time => scope.scene.settings.timeUniform
  | .resolution => scope.scene.settings.resolutionUniform
  | .point => scope.scene.settings.pointVariable

/-- The variable of the main output: that of the output `out`, else of the first declared output
that has one, else the first there is. -/
def result (scope : Scope) : String :=
  let ports := scope.scene.variableNames.ports scope.node.id
  match ports.find? "out" with
  | some name => name
  | none =>
    ((scope.type.outputs.findSome? fun port => ports.find? port.name).or ports.values.head?).getD
      "result"

/-- What the placeholders of the node's templates stand for. -/
def resolver (scope : Scope) : Template.Resolver Traced where
  input := scope.input
  output := scope.output
  param := scope.param
  global := fun value => pure (scope.global value)
  result := pure scope.result

/-- The code of a template of the node. -/
def render (scope : Scope) (template : String) : Traced String :=
  Template.render scope.resolver template

end Scope

end ShaderLoom
