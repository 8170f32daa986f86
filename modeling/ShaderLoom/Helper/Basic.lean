import ShaderLoom.Table
import ShaderLoom.Text.Blank
import ShaderLoom.Text.Lines
import ShaderLoom.Text.Word

/-!
# Helper functions

The functions that the code of a node type brings along.  They are found in shader code by their
heads: a return type, a name and an opening parenthesis.  A head that is followed by its closing
parenthesis and a body in braces is a definition; without a body it is passed over.  An opening
bracket that is never closed ends the search.

Two helpers with the same return type, name and parameter types have the same signature, and only
the first of them is kept.
-/

namespace ShaderLoom

/-- A function of shader code with its whole text. -/
structure Helper where
  returnType : String
  name : String
  parameterTypes : List String
  text : List Char
deriving DecidableEq, Inhabited

namespace Helper

/-- The return type, the name and the parameter types, joined by underscores. -/
def signature (helper : Helper) : String :=
  "_".intercalate (helper.returnType :: helper.name :: helper.parameterTypes)

/-! ### Heads -/

/-- The types that a helper can return. -/
def returnTypes : List String :=
  ["float", "vec2", "vec3", "vec4", "int", "bool", "void", "mat2", "mat3", "mat4"]

/-- The front of a function, up to its opening parenthesis. -/
structure Head where
  returnType : String
  name : List Char
  /-- The text of the head, with the parenthesis. -/
  source : List Char

/-- The head at the front of a text, if it returns the given type. -/
def headReturning? (text : List Char) (returnType : String) : Option Head :=
  if returnType.toList.isPrefixOf text then
    let afterType := text.drop returnType.toList.length
    let gap := afterType.takeWhile Text.isBlank
    let afterGap := afterType.dropWhile Text.isBlank
    let name := afterGap.takeWhile Text.isWord
    let afterName := afterGap.dropWhile Text.isWord
    let space := afterName.takeWhile Text.isBlank
    match afterName.dropWhile Text.isBlank with
    | '(' :: _ =>
      if gap.isEmpty || name.isEmpty then none
      else some ⟨returnType, name, returnType.toList ++ gap ++ name ++ space ++ ['(']⟩
    | _ => none
  else none

/-- The head at the front of a text that follows the character `before`. -/
def head? (before : Option Char) (text : List Char) : Option Head :=
  if Text.atBoundary before text then returnTypes.findSome? (headReturning? text) else none

/-! ### Brackets -/

/-- Cuts a text behind the bracket that closes the innermost of `depth` open ones and, with it, all
of them. -/
def cutAtClosing (opening closing : Char) : Nat → List Char → Option (List Char × List Char)
  | 0, text => some ([], text)
  | _ + 1, [] => none
  | depth + 1, c :: rest =>
    let depth' := if c = opening then depth + 2 else if c = closing then depth else depth + 1
    (cutAtClosing opening closing depth' rest).map fun (inside, outside) => (c :: inside, outside)

/-! ### Parameters -/

/-- Words that may stand before the type of a parameter. -/
def qualifiers : List String := ["in", "out", "inout", "const", "highp", "mediump", "lowp"]

/-- The first word of a text that begins with two words, and the text from the second on. -/
def firstOfTwo? (text : List Char) : Option (List Char × List Char) :=
  let word := text.takeWhile Text.isWord
  let gap := text.dropWhile Text.isWord
  let next := gap.dropWhile Text.isBlank
  if word ≠ [] ∧ next.length < gap.length ∧ Text.isWordSide next.head? then some (word, next)
  else none

theorem length_of_firstOfTwo? {text word next : List Char}
    (h : firstOfTwo? text = some (word, next)) : next.length < text.length := by
  unfold firstOfTwo? at h
  dsimp only at h
  split at h
  · next hc =>
    cases h
    have := (List.dropWhile_sublist (l := text) Text.isWord).length_le
    omega
  · cases h

/-- The type of a parameter: its first word, or a later one when qualifiers stand before it.  A
qualifier counts as the type when only one word follows it. -/
def parameterType? (text : List Char) : Option (List Char) :=
  match _h : firstOfTwo? text with
  | none => none
  | some (word, next) =>
    if qualifiers.contains (String.ofList word) then (parameterType? next).orElse fun _ => some word
    else some word
termination_by text.length
decreasing_by exact length_of_firstOfTwo? ‹_›

/-- The types of the parameters in a parameter list. -/
def parameterTypesOf (parameters : List Char) : List String :=
  (Text.splitOn ',' parameters).filterMap fun piece =>
    (parameterType? (Text.trim piece)).map String.ofList

/-! ### Definitions -/

/-- What a head turns out to begin. -/
inductive Reading where
  /-- A bracket is never closed. -/
  | unclosed
  /-- There is no body. -/
  | bodiless
  | definition (helper : Helper)

/-- What the head of a text begins. -/
def readFrom (head : Head) (text : List Char) : Reading :=
  match cutAtClosing '(' ')' 1 (text.drop head.source.length) with
  | none => .unclosed
  | some (parameters, rest) =>
    match rest.dropWhile Text.isBlank with
    | '{' :: inside =>
      match cutAtClosing '{' '}' 1 inside with
      | none => .unclosed
      | some (body, _) => .definition
        { returnType := head.returnType
          name := String.ofList head.name
          parameterTypes := parameterTypesOf parameters.dropLast
          text := head.source ++ parameters ++ rest.takeWhile Text.isBlank ++ '{' :: body }
    | _ => .bodiless

/-- The helpers defined in a text that follows the character `before`. -/
def extractAfter (before : Option Char) (text : List Char) : List Helper :=
  match text with
  | [] => []
  | c :: rest =>
    match head? before (c :: rest) with
    | none => extractAfter (some c) rest
    | some head =>
      match readFrom head (c :: rest) with
      | .unclosed => []
      | .bodiless =>
        extractAfter (Text.lastOf before head.source) (rest.drop (head.source.length - 1))
      | .definition helper =>
        helper :: extractAfter (Text.lastOf before helper.text)
          (rest.drop (helper.text.length - 1))
termination_by text.length
decreasing_by
  all_goals simp only [List.length_drop, List.length_cons]
  all_goals omega

/-- The helpers defined in shader code, in order. -/
def extract (code : List Char) : List Helper := extractAfter none code

/-- The names of the helpers defined in shader code, each once. -/
def names (code : List Char) : List String := ((extract code).map Helper.name).eraseDups

/-- The first helper of every signature among several pieces of shader code. -/
def distinct (blocks : List (List Char)) : List Helper :=
  ((blocks.flatMap extract).foldl
    (fun table helper => table.insertNew helper.signature helper) Table.empty).values

end Helper

end ShaderLoom
