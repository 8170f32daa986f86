import ShaderLoom.Template.Basic

/-!
# Filling templates

A resolver answers every hole of a template with text.  The index of an array element is filled
before the element is asked for.
-/

namespace ShaderLoom.Template

/-- The texts that fill the holes of a template. -/
structure Resolver (m : Type → Type) where
  input : String → m String
  output : String → m String
  /-- A parameter by its name, with the filled index if there is one. -/
  param : String → Option String → m String
  global : Global → m String
  result : m String

variable {m : Type → Type} [Monad m]

namespace Resolver

/-- The text that fills a placeholder. -/
def fill (resolver : Resolver m) : Placeholder → m String
  | .input port => resolver.input port
  | .output port => resolver.output port
  | .param name => resolver.param name none
  | .global value => resolver.global value
  | .result => resolver.result

end Resolver

/-- The texts of all segments, one after the other. -/
def concat {α : Type} (fill : α → m String) : List (Segment α) → m String
  | [] => pure ""
  | .literal text :: rest => do return String.ofList text ++ (← concat fill rest)
  | .hole hole :: rest => do
    let text ← fill hole
    return text ++ (← concat fill rest)

/-- The text that fills a hole. -/
def Resolver.fillHole (resolver : Resolver m) : Hole → m String
  | .plain placeholder => resolver.fill placeholder
  | .element name index => do
    resolver.param name (some (← concat resolver.fill (indexSegments index)))

/-- The template with all holes filled. -/
def render (resolver : Resolver m) (template : String) : m String :=
  concat resolver.fillHole (segments template)

end ShaderLoom.Template
