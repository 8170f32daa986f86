import ShaderLoom.Template.Basic
import ShaderLoom.Text.Sorted

/-!
# References of templates

The ports and parameters that a template mentions, inside indices too.
-/

namespace ShaderLoom.Template

/-- The holes among segments. -/
def holes {α : Type} (segments : List (Segment α)) : List α :=
  segments.filterMap fun
    | .hole hole => some hole
    | .literal _ => none

/-- The placeholders of a hole: the parameter, and those of its index. -/
def Hole.placeholders : Hole → List Placeholder
  | .plain placeholder => [placeholder]
  | .element name index => .param name :: holes (indexSegments index)

/-- The placeholders of a template, in the order in which they stand. -/
def placeholders (template : String) : List Placeholder :=
  (holes (segments template)).flatMap Hole.placeholders

/-- The inputs that a template mentions. -/
def inputs (template : String) : List String :=
  Text.sortedSet <| (placeholders template).filterMap fun
    | .input port => some port
    | _ => none

/-- The outputs that a template mentions. -/
def outputs (template : String) : List String :=
  Text.sortedSet <| (placeholders template).filterMap fun
    | .output port => some port
    | _ => none

/-- The parameters that a template mentions. -/
def params (template : String) : List String :=
  Text.sortedSet <| (placeholders template).filterMap fun
    | .param name => some name
    | _ => none

end ShaderLoom.Template
