import ShaderLoom.Value
import ShaderLoom.Decimal.Layout
import ShaderLoom.Text.Quoted

/-!
# Values in messages

`Value.written` is a value as a message shows it: texts quoted, lists in square brackets, records in
braces, numbers by their shortest decimal.  `Value.plain` differs for a text, which it leaves bare.
Not every value can be written: an integer may have too many digits, and values may be nested too
deeply in one another.
-/

namespace ShaderLoom

/-- Numbers in messages: positional from `0.0001` to below `10 ^ 16`. -/
def Value.numberLayout : Decimal.Layout where
  leastPositional := -4
  greatestPositional := 15
  pointBeforeExponent := false
  nan := "nan"
  infinite := fun negative => if negative then "-inf" else "inf"

/-- The text of a double in a message. -/
def Double.written (x : Double) : String := String.ofList (Decimal.write Value.numberLayout x)

/-- A text in quotes. -/
def quote (s : String) : String := String.ofList (Text.quoted s.toList)

/-- A cause for which a value cannot be written. -/
inductive WritingFault where
  /-- An integer has too many digits. -/
  | tooManyDigits
  /-- Values are nested too deeply in one another. -/
  | tooDeep
deriving DecidableEq, Inhabited

/-- The most digits that an integer may have to be read or written. -/
def maxDigits : Nat := 4300

/-- The digits of an integer, behind its sign. -/
def decimalText (i : Int) : String :=
  String.ofList (Decimal.signText (i < 0) ++ Nat.toDigits 10 i.natAbs)

/-- The text of an integer that has no more than `maxDigits` digits. -/
def writtenInt (i : Int) : Except WritingFault String :=
  if Decimal.digitCount i.natAbs ≤ maxDigits then .ok (decimalText i) else .error .tooManyDigits

namespace Value

/-- A value as a message shows it, if the values in it are nested in no more than `depth` levels. -/
def written : (depth : Nat) → Value → Except WritingFault String
  | 0, _ => .error .tooDeep
  | depth + 1, value => match value with
    | .null => .ok "None"
    | .bool true => .ok "True"
    | .bool false => .ok "False"
    | .int i => writtenInt i
    | .number x => .ok x.written
    | .text s => .ok (quote s)
    | .list items => do
      return "[" ++ ", ".intercalate (← items.mapM (written depth)) ++ "]"
    | .record entries => do
      let shown ← entries.mapM fun entry => do
        return quote entry.1 ++ ": " ++ (← written depth entry.2)
      return "\x7b" ++ ", ".intercalate shown ++ "\x7d"

/-- A value as text: a text is itself. -/
def plain (depth : Nat) : Value → Except WritingFault String
  | .text s => .ok s
  | value => value.written depth

end Value

end ShaderLoom
