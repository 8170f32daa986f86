/-!
# Identifiers

The names that generated code uses.  They are made from the id of a node and the name of a port or
parameter, by turning every character other than an ASCII letter or digit into an underscore.
-/

namespace ShaderLoom.Identifier

/-- `c` if it may stand in an identifier, else an underscore. -/
def cleanChar (c : Char) : Char := if c.isAlphanum then c else '_'

/-- `name` with every other character turned into an underscore. -/
def clean (name : String) : String := String.ofList (name.toList.map cleanChar)

/-- `name` with every other character left out. -/
def squeeze (name : String) : String := String.ofList (name.toList.filter Char.isAlphanum)

/-- `name` with its first letter in upper case. -/
def capitalize (name : String) : String :=
  match name.toList with
  | [] => ""
  | c :: rest => String.ofList (c.toUpper :: rest)

/-- `name` behind a letter if it begins with a digit. -/
def guardDigit (name : String) : String :=
  match name.toList with
  | c :: _ => if c.isDigit then "n" ++ name else name
  | [] => name

/-- The variable that holds an output of a node. -/
def outputVariable (node port : String) : String := "node_" ++ clean node ++ "_" ++ clean port

/-- The constant that holds an array parameter of a node. -/
def arrayConstant (node parameter : String) : String :=
  "array_" ++ clean node ++ "_" ++ clean parameter

/-- The uniform that carries a parameter or an audio output of a node. -/
def uniform (node parameter : String) : String :=
  "u" ++ guardDigit (clean node) ++ capitalize (squeeze parameter)

end ShaderLoom.Identifier
