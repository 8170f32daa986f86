import ShaderLoom.Decimal.Reading
import ShaderLoom.NodeType

/-!
# Building node types

Short forms for the ports and parameters of the node types that come with the library.
-/

namespace ShaderLoom.Palette

/-- The number `digits / 10 ^ places`. -/
def decimal (digits : Int) (places : Nat) : Value :=
  .number (Decimal.toDouble (digits < 0) digits.natAbs (-places))

/-- A port without a label. -/
def port (name : String) (type : PortType) : Port := ⟨name, type, none⟩

/-- A port with a label. -/
def labelled (name : String) (type : PortType) (label : String) : Port := ⟨name, type, some label⟩

/-- A parameter with a default and nothing else. -/
def plain (type : ParameterType) (default : Value) : Parameter :=
  ⟨type, default, .null, .null, .null, none, none⟩

/-- A float parameter within bounds, in hundredths. -/
def bounded (default minimum maximum : Int) (label : Option String) : Parameter :=
  ⟨.float, decimal default 2, decimal minimum 2, decimal maximum 2, decimal 1 2, label, none⟩

/-- An integer parameter within bounds. -/
def counted (default minimum maximum : Int) : Parameter :=
  ⟨.int, .int default, .int minimum, .int maximum, .null, none, none⟩

end ShaderLoom.Palette
