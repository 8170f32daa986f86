import ShaderLoom.Text.Start
import ShaderLoom.Text.Word

/-!
# Templates

The code of a node type is shader code with placeholders for the ports and parameters of a node.
A template is taken apart once, from left to right, into literal text and holes, so that the text
put into one hole is never read again.

A parameter of array type may be followed by an index in brackets.  The index is a template
itself, in which no further brackets occur.
-/

namespace ShaderLoom.Template

/-- The values that every node can read. -/
inductive Global where
  | time
  | resolution
  /-- The coordinate of the pixel. -/
  | point
deriving DecidableEq, Inhabited

/-- The word that names a global value in a template. -/
def Global.keyword : Global → String
  | .time => "time"
  | .resolution => "resolution"
  | .point => "p"

/-- A place of a template that is filled per node. -/
inductive Placeholder where
  | input (port : String)
  | output (port : String)
  | param (name : String)
  | global (value : Global)
  /-- The main output of the node. -/
  | result
deriving DecidableEq, Inhabited

/-- The text of a placeholder in a template. -/
def Placeholder.source : Placeholder → List Char
  | .input port => "$input.".toList ++ port.toList
  | .output port => "$output.".toList ++ port.toList
  | .param name => "$param.".toList ++ name.toList
  | .global value => '$' :: value.keyword.toList
  | .result => "result".toList

/-- A placeholder, or one element of an array parameter. -/
inductive Hole where
  | plain (placeholder : Placeholder)
  | element (name : String) (index : List Char)
deriving DecidableEq, Inhabited

/-- The text of a hole in a template. -/
def Hole.source : Hole → List Char
  | .plain placeholder => placeholder.source
  | .element name index => (Placeholder.param name).source ++ '[' :: index ++ [']']

/-- A part of a template: text that stands for itself, or something to be filled in. -/
inductive Segment (α : Type) where
  | literal (text : List Char)
  | hole (content : α)
deriving DecidableEq, Inhabited

/-- The text of a segment in a template. -/
def Segment.source {α : Type} (holeSource : α → List Char) : Segment α → List Char
  | .literal text => text
  | .hole content => holeSource content

/-! ### Scanning -/

/-- `c` in front of the segments: it joins a literal that comes first. -/
def consLiteral {α : Type} (c : Char) : List (Segment α) → List (Segment α)
  | .literal text :: rest => .literal (c :: text) :: rest
  | segments => .literal [c] :: segments

/-- The segments of a text that follows the character `before`.  `recognise` finds a hole at the
front of a text, and `source` is the text that the hole takes up there. -/
def scan {α : Type} (recognise : Option Char → List Char → Option α) (source : α → List Char)
    (before : Option Char) (text : List Char) : List (Segment α) :=
  match text with
  | [] => []
  | c :: rest =>
    match recognise before (c :: rest) with
    | some hole =>
      .hole hole :: scan recognise source (Text.lastOf before (source hole))
        (rest.drop ((source hole).length - 1))
    | none => consLiteral c (scan recognise source (some c) rest)
termination_by text.length
decreasing_by
  · simp only [List.length_drop, List.length_cons]
    omega
  · simp

/-- The word at the front of what follows `start`. -/
def wordAfter? (start : String) (text : List Char) : Option String :=
  match Text.after? start.toList text with
  | none => none
  | some rest => match rest.takeWhile Text.isWord with
    | [] => none
    | word => some (String.ofList word)

/-- The global value named at the front of a text, if its name ends there. -/
def global? (text : List Char) : Option Global :=
  [Global.time, .resolution, .point].find? fun value =>
    match Text.after? (Placeholder.global value).source text with
    | none => false
    | some rest => !Text.isWordSide rest.head?

/-- The placeholder at the front of a text. -/
def placeholder? (before : Option Char) (text : List Char) : Option Placeholder :=
  if let some port := wordAfter? "$input." text then some (.input port)
  else if let some port := wordAfter? "$output." text then some (.output port)
  else if let some name := wordAfter? "$param." text then some (.param name)
  else if let some value := global? text then some (.global value)
  else if Text.standsWhole Placeholder.result.source before text then some .result
  else none

/-- The index at the front of a text: what stands in brackets without a bracket inside. -/
def index? : List Char → Option (List Char)
  | '[' :: rest =>
    match rest.dropWhile fun c => c != '[' && c != ']' with
    | ']' :: _ => some (rest.takeWhile fun c => c != '[' && c != ']')
    | _ => none
  | _ => none

/-- The hole at the front of a text. -/
def hole? (before : Option Char) (text : List Char) : Option Hole :=
  match placeholder? before text with
  | none => none
  | some (.param name) =>
    match index? (text.drop (Placeholder.param name).source.length) with
    | some index => some (.element name index)
    | none => some (.plain (.param name))
  | some placeholder => some (.plain placeholder)

/-- The segments of a template. -/
def segments (template : String) : List (Segment Hole) :=
  scan hole? Hole.source none template.toList

/-- The segments of the index of an array element. -/
def indexSegments (index : List Char) : List (Segment Placeholder) :=
  scan placeholder? Placeholder.source none index

end ShaderLoom.Template
