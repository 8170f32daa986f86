import ShaderLoom.Fault
import ShaderLoom.ParameterType
import ShaderLoom.WireMode
import ShaderLoom.Text.Case

/-!
# Spellings of types and modes

Types and modes are written by name, in any case.  A type is compared by its upper-case form and a
mode by its lower-case form, so a ligature or a long s spells the letters it stands for.  A value
spells what its text does, so one that cannot be written spells nothing.
-/

namespace ShaderLoom

/-- Whether the upper-case form of `spelling` is the upper-case form of `keyword`. -/
def spells (keyword spelling : String) : Bool :=
  Text.upper? spelling.toList == some (keyword.toList.map Char.toUpper)

/-- The port type that a value spells. -/
def PortType.ofValue (depth : Nat) (value : Value) : Except Fault PortType := do
  let text ← (value.plain depth).mapError .unwritable
  match PortType.all.find? (spells ·.keyword text) with
  | some type => return type
  | none => throw (.unknownPortType (← (value.written depth).mapError .unwritable))

/-- The parameter type that a value spells. -/
def ParameterType.ofValue (depth : Nat) (value : Value) : Except Fault ParameterType := do
  let text ← (value.plain depth).mapError .unwritable
  match ParameterType.all.find? (spells ·.keyword text) with
  | some type => return type
  | none => throw (.unknownParameterType (← (value.written depth).mapError .unwritable))

/-- The lower-case form of a text. -/
def lowerCase (s : String) : String := String.ofList (Text.lower s.toList)

/-- The mode that a text spells. -/
def WireMode.ofText (text : String) : Except Fault WireMode :=
  let lowered := lowerCase text
  match WireMode.all.find? (·.keyword == lowered) with
  | some mode => .ok mode
  | none => .error (.unknownWireMode lowered)

/-- The mode that a value spells. -/
def WireMode.ofValue (depth : Nat) (value : Value) : Except Fault WireMode := do
  WireMode.ofText (← (value.plain depth).mapError .unwritable)

end ShaderLoom
