import ShaderLoom.Number.Fault
import ShaderLoom.PortType
import ShaderLoom.Value.Written

/-!
# Faults

Everything that can stop an operation, by its cause, and the wording of each cause.
-/

namespace ShaderLoom

/-- A cause for which a replacement text is refused. -/
inductive ReplacementFault where
  /-- A backslash stands before a letter that has no meaning there, or an octal code is too large,
  or a reference is not closed or has no proper name. -/
  | badEscape
  /-- A group is named that the pattern does not have. -/
  | badGroup
  /-- A group is named by a word. -/
  | unknownName (name : String)
deriving DecidableEq, Inhabited

/-- A cause for which numbers cannot be written with a given number of decimal places. -/
inductive PlacesFault where
  /-- There are less than zero places. -/
  | negative
  /-- There are more places than can be written. -/
  | tooMany
  /-- There are more places than can be counted. -/
  | uncountable
deriving DecidableEq, Inhabited

/-- A cause that stops an operation. -/
inductive Fault where
  /-- A value of one type cannot become a value of the other. -/
  | conversion (source target : PortType) (node : Option String)
  /-- A template reads an input that its node type does not declare. -/
  | undeclaredInput (nodeType port : String)
  /-- A template writes an output that its node type does not declare. -/
  | undeclaredOutput (nodeType port : String)
  | unknownNodeType (nodeType : String)
  | duplicateNodeType (nodeType : String)
  | unknownPortType (written : String)
  | unknownParameterType (written : String)
  | unknownWireMode (lowered : String)
  /-- A wire leads to a port and a parameter, or to neither. -/
  | wireTarget (source sourcePort target : String)
  /-- A value is no number of the kind that is needed. -/
  | number (cause : NumberFault)
  /-- An entry of an array parameter is no number. -/
  | arrayEntry (cause : NumberFault)
  /-- The entries of an array cannot be written with the places that are asked for. -/
  | places (cause : PlacesFault)
  /-- The new name of a helper is no replacement text. -/
  | replacement (cause : ReplacementFault)
  /-- The node that marks the final color has no known type. -/
  | untypedSink
  /-- A value cannot be written. -/
  | unwritable (cause : WritingFault)
deriving Inhabited

/-- The wording of a number fault. -/
def NumberFault.message : NumberFault → String
  | .notNumeric => "the value holds no number"
  | .unreadable text => "could not convert string to float: " ++ quote text
  | .tooLarge => "int too large to convert to float"
  | .infinite => "cannot convert float infinity to integer"
  | .notANumber => "cannot convert float NaN to integer"
  | .ragged => "the lists are not nested regularly"

/-- The wording of a fault of decimal places. -/
def PlacesFault.message : PlacesFault → String
  | .negative => "Format specifier missing precision"
  | .tooMany => "precision too big"
  | .uncountable => "Too many decimal digits in format string"

/-- The wording of a replacement fault. -/
def ReplacementFault.message : ReplacementFault → String
  | .badEscape => "the replacement text holds a bad escape"
  | .badGroup => "the replacement text names a missing group"
  | .unknownName name => "unknown group name " ++ quote name

/-- The wording of a writing fault. -/
def WritingFault.message : WritingFault → String
  | .tooManyDigits => "Exceeds the limit (" ++ decimalText maxDigits ++ " digits) for integer "
      ++ "string conversion; use sys.set_int_max_str_digits() to increase the limit"
  | .tooDeep => "maximum recursion depth exceeded while getting the repr of an object"

namespace Fault

/-- The wording of a failed conversion. -/
def conversionMessage (source target : PortType) : String :=
  "Cannot convert " ++ source.keyword ++ " to " ++ target.keyword

/-- The wording of a fault. -/
def message : Fault → String
  | .conversion source target _ => conversionMessage source target
  | .undeclaredInput nodeType port =>
    "Node type '" ++ nodeType ++ "' references undeclared input '$input." ++ port ++ "'"
  | .undeclaredOutput nodeType port =>
    "Node type '" ++ nodeType ++ "' references undeclared output '$output." ++ port ++ "'"
  | .unknownNodeType nodeType => "Unknown node type '" ++ nodeType ++ "'"
  | .duplicateNodeType nodeType => "Node type '" ++ nodeType ++ "' is already registered"
  | .unknownPortType written => "Unknown port type: " ++ written
  | .unknownParameterType written => "Unknown parameter type: " ++ written
  | .unknownWireMode lowered => quote lowered ++ " is not a valid InputMode"
  | .wireTarget source sourcePort target =>
    "Connection " ++ source ++ "." ++ sourcePort ++ " -> " ++ target
      ++ " must set exactly one of target_port / target_parameter"
  | .number cause | .arrayEntry cause => cause.message
  | .places cause => cause.message
  | .replacement cause => cause.message
  | .untypedSink => "the node of the final color has no known type"
  | .unwritable cause => cause.message

end Fault

end ShaderLoom
