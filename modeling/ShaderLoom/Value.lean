import ShaderLoom.Number.Double

/-!
# Parameter values

A node's author gives parameters values of any shape.  What a value means depends on the type of
its parameter, so a value is kept as it was written until it is used.
-/

namespace ShaderLoom

/-- A value as its author wrote it. -/
inductive Value where
  /-- No value. -/
  | null
  | bool (b : Bool)
  | int (i : Int)
  | number (x : Double)
  | text (s : String)
  | list (items : List Value)
  /-- Named entries, in the order in which they were written. -/
  | record (entries : List (String × Value))
deriving Inhabited

namespace Value

/-- Whether the value is given at all. -/
def isNull : Value → Bool
  | .null => true
  | _ => false

/-- `none` for the value that is not given. -/
def given? : Value → Option Value
  | .null => none
  | value => some value

/-- Whether the value is empty: no value, no truth, zero, or nothing inside. -/
def isEmpty : Value → Bool
  | .null => true
  | .bool b => !b
  | .int i => i == 0
  | .number x => x.isZero
  | .text s => s.isEmpty
  | .list items => items.isEmpty
  | .record entries => entries.isEmpty

end Value

end ShaderLoom
