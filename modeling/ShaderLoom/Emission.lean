import ShaderLoom.Helper.Rename
import ShaderLoom.Scope
import ShaderLoom.Swizzle
import ShaderLoom.Text.Lines

/-!
# The code of one node

Most nodes run the code of their type's template.  An audio node copies its uniforms into its
outputs, a swizzle is one assignment, and the node that marks the final color runs no code.
-/

namespace ShaderLoom

/-- How the code of a node is made. -/
inductive Emitter where
  | nothing
  | audioFile
  | audioAnalyzer
  | swizzle
  | template
deriving DecidableEq, Inhabited

/-- How the code of the nodes of a type is made. -/
def NodeType.emitter (type : NodeType) (settings : Settings) : Emitter :=
  if type.id = settings.sinkType then .nothing
  else if type.category = settings.audioCategory ∧ type.id = settings.audioFileType then .audioFile
  else if type.category = settings.audioCategory ∧ type.id = settings.audioAnalyzerType then
    .audioAnalyzer
  else if type.id = "swizzle" then .swizzle
  else .template

namespace Scope

/-- Copies the uniforms of audio outputs into the variables of the outputs. -/
def copyUniforms (scope : Scope) : List String → Traced (List String)
  | [] => pure []
  | port :: rest =>
    match scope.scene.variableNames.lookup scope.node.id port with
    | none => scope.copyUniforms rest
    | some name =>
      match scope.scene.uniform? scope.node.id port with
      | some uniform => do return (name ++ " = " ++ uniform ++ ";") :: (← scope.copyUniforms rest)
      | none => do
        Traced.remark ("No uniform for audio output " ++ scope.node.id ++ "." ++ port
          ++ "; output stays at its initial value")
        scope.copyUniforms rest

/-- The parameter that holds the pattern of a swizzle. -/
def patternParameter : String := "swizzle"

/-- The pattern of a swizzle: the author's, else that of the node type, else all four lanes. -/
def swizzleValue (scope : Scope) : Value :=
  let authored := (scope.node.value? patternParameter).filter (!·.isEmpty)
  let default := ((scope.type.parameter? patternParameter).map Parameter.default).filter
    (!·.isEmpty)
  (authored.or default).getD (.text "xyzw")

/-- The assignment of a swizzle.  A pattern that is not known passes the input through, with a
remark that shows it. -/
def swizzleCode (scope : Scope) : Traced String := do
  let input ← scope.input "in"
  let output ← scope.output "out"
  match Swizzle.pattern? scope.swizzleValue with
  | none =>
    let shown ← (scope.swizzleValue.written scope.scene.settings.messageDepth).mapError
      Fault.unwritable
    Traced.remark ("Invalid swizzle pattern " ++ shown ++ " on " ++ scope.node.id
      ++ "; passing input through")
    return output ++ " = " ++ input ++ ";"
  | some pattern =>
    let operand := if Conversion.isBareName Text.isWord input then input else "(" ++ input ++ ")"
    return output ++ " = " ++ Swizzle.expression operand pattern ++ ";"

/-- The code of the template, below the declarations of the array constants. -/
def templateCode (scope : Scope) : Traced String := do
  let declarations ← scope.arrayDeclarations
  let rendered ← scope.render scope.type.mainCode
  let body := Text.trimNewlines (Text.dedent rendered.toList)
  let lines := if Text.allBlank body then declarations else declarations ++ [String.ofList body]
  return "\n".intercalate lines

/-- The code of the node before its helpers are renamed; `none` if it runs no code. -/
def emit (scope : Scope) : Traced (Option String) :=
  match scope.type.emitter scope.scene.settings with
  | .nothing => pure none
  | .audioFile => do
    return some ("\n".intercalate (← scope.copyUniforms (scope.type.outputs.map Port.name)))
  | .audioAnalyzer => do
    let bands ← scope.node.bands scope.type scope.scene.settings
    return some ("\n".intercalate (← scope.copyUniforms (analyzerPorts bands.length)))
  | .swizzle => do return some (← scope.swizzleCode)
  | .template => do return some (← scope.templateCode)

/-- The code of the node. -/
def body (scope : Scope) : Traced (Option (List Char)) := do
  match ← scope.emit with
  | none => return none
  | some code =>
    return some (← Helper.renameAll (scope.scene.renamesOf scope.node.id)
      (Text.dedent code.toList))

/-- The helpers of the node under their new names; nothing if its type has none. -/
def helperCode (scope : Scope) : Traced (Option (List Char)) :=
  match scope.type.helperTemplate? with
  | none => pure none
  | some template => do
    let rendered ← scope.render template
    return some (← Helper.renameAll (scope.scene.renamesOf scope.node.id) rendered.toList)

end Scope

end ShaderLoom
