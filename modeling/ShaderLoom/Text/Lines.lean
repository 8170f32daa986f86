import ShaderLoom.Text.Blank

/-!
# Lines of a text

A text is cut into lines at its newline characters only.  `dedent` removes from every line the
indentation that all lines share; a line of spaces and tabs alone becomes empty and does not count.
-/

namespace ShaderLoom.Text

/-- The pieces of a text between the occurrences of `mark`; there is always one more piece than
there are marks. -/
def splitOn (mark : Char) : List Char → List (List Char)
  | [] => [[]]
  | c :: rest =>
    if c = mark then [] :: splitOn mark rest
    else match splitOn mark rest with
      | [] => [[c]]
      | piece :: pieces => (c :: piece) :: pieces

/-- The lines of a text. -/
def lines (text : List Char) : List (List Char) := splitOn '\n' text

/-- The text whose lines are given. -/
def joinLines (lines : List (List Char)) : List Char := List.intercalate ['\n'] lines

/-- `text` without the newlines at its two ends. -/
def trimNewlines (text : List Char) : List Char := trimBoth (· == '\n') text

/-! ### Shared indentation -/

/-- A space or a tab. -/
def isIndent (c : Char) : Bool := c == ' ' || c == '\t'

/-- The longest text that begins both `a` and `b`. -/
def commonStart : List Char → List Char → List Char
  | a :: as, b :: bs => if a = b then a :: commonStart as bs else []
  | _, _ => []

/-- The indentation shared by all given lines; nothing when there are no lines. -/
def sharedIndent : List (List Char) → List Char
  | [] => []
  | line :: rest =>
    rest.foldl (fun margin other => commonStart margin (other.takeWhile isIndent))
      (line.takeWhile isIndent)

/-- The text without the indentation that its lines share. -/
def dedent (text : List Char) : List Char :=
  let cleared := (lines text).map fun line => if line.all isIndent then [] else line
  let margin := sharedIndent (cleared.filter (!·.isEmpty))
  joinLines (cleared.map (·.drop margin.length))

end ShaderLoom.Text
