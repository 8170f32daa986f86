import ShaderLoom.Fault
import ShaderLoom.Text.Lines

/-!
# Error listings

An error of the shader compiler shown together with the shader code it arose in, whose lines are
numbered.
-/

namespace ShaderLoom

/-- An error of the shader compiler. -/
inductive CompilerError where
  | general (message : String)
  | template (message : String)
  | conversion (source target : PortType)

namespace CompilerError

/-- The heading of an error. -/
def title : CompilerError → String
  | .general _ => "CompilationError"
  | .template _ => "TemplateError"
  | .conversion _ _ => "UnsupportedConversionError"

/-- The wording of an error. -/
def message : CompilerError → String
  | .general message | .template message => message
  | .conversion source target => Fault.conversionMessage source target

/-- A line number of at least three digits. -/
def lineNumber (n : Nat) : String :=
  let digits := Nat.toDigits 10 n
  String.ofList (List.replicate (3 - digits.length) '0' ++ digits)

/-- The lines of shader code, each behind its number. -/
def numberedLines (code : String) : List String :=
  (Text.lines code.toList).mapIdx fun i line => lineNumber (i + 1) ++ ": " ++ String.ofList line

/-- The error with the node and the code it arose in.  Without code, the wording alone is shown. -/
def listing (error : CompilerError) (node code : Option String) : String :=
  match code with
  | none | some "" => error.message
  | some code =>
    let place := match node with
      | none | some "" => []
      | some node => ["Node: " ++ node]
    "\n".intercalate
      ((error.title ++ ": " ++ error.message) :: place ++ "--- SHADER SOURCE ---"
        :: numberedLines code ++ ["---------------------"])

end CompilerError

end ShaderLoom
