import ShaderLoom.Decimal.Shortest
import ShaderLoom.Text.Blank
import ShaderLoom.Text.Digit

/-!
# Reading a decimal

A number is written with the decimal digits of any script, an optional point and an optional
exponent; single underscores may stand between digits, and blanks around the whole.  The words
`inf`, `infinity` and `nan` are numbers too, in any case.
-/

namespace ShaderLoom.Decimal

/-- The digits of every script as ASCII digits. -/
def plainDigit (c : Char) : Char :=
  match Text.digitValue? c with
  | some value => Char.ofNat (0x30 + value)
  | none => c

/-- The text without its underscores; `none` if one does not stand between two digits. -/
def dropUnderscores (before : Char) : List Char → Option (List Char)
  | [] => if before = '_' then none else some []
  | c :: rest =>
    if c = '_' then if before.isDigit then dropUnderscores c rest else none
    else if before = '_' ∧ ¬ c.isDigit then none
    else (dropUnderscores c rest).map (c :: ·)

/-- The number that a list of ASCII digits spells. -/
def digitsValue (digits : List Char) : Nat :=
  digits.foldl (fun value c => 10 * value + (c.toNat - 0x30)) 0

/-- The double nearest to `±coefficient * 10 ^ power`. -/
def toDouble (negative : Bool) (coefficient : Nat) (power : Int) : Double :=
  let lead := power + digitCount coefficient
  if coefficient = 0 ∨ lead < -330 then Double.ofRatio negative 0 1
  else if 310 < lead then .infinite negative
  else Double.ofRatio negative (coefficient * Number.tenTo power) (Number.tenTo (-power))

/-- Splits a sign off the front of a text. -/
def takeSign : List Char → Bool × List Char
  | '-' :: rest => (true, rest)
  | '+' :: rest => (false, rest)
  | text => (false, text)

/-- The value of an exponent part, which may be absent. -/
def readExponent? : List Char → Option Int
  | [] => some 0
  | mark :: rest =>
    let (negative, digits) := takeSign rest
    if (mark = 'e' ∨ mark = 'E') ∧ digits ≠ [] ∧ digits.all Char.isDigit then
      some (Double.signed negative (digitsValue digits))
    else none

/-- Reads an unsigned number that consists of digits, a point and an exponent part. -/
def readDigits? (negative : Bool) (text : List Char) : Option Double :=
  let whole := text.takeWhile Char.isDigit
  let rest := text.dropWhile Char.isDigit
  let (fraction, tail) := match rest with
    | '.' :: rest => (rest.takeWhile Char.isDigit, rest.dropWhile Char.isDigit)
    | _ => ([], rest)
  if whole.isEmpty && fraction.isEmpty then none
  else
    (readExponent? tail).map fun exponent =>
      toDouble negative (digitsValue (whole ++ fraction)) (exponent - fraction.length)

/-- Reads an unsigned number: a word or digits. -/
def readUnsigned? (negative : Bool) (text : List Char) : Option Double :=
  let word := String.ofList (text.map Char.toLower)
  if word = "inf" ∨ word = "infinity" then some (.infinite negative)
  else if word = "nan" then some .nan
  else readDigits? negative text

/-- The double that a text spells. -/
def read? (text : List Char) : Option Double :=
  match dropUnderscores ' ' ((Text.trimBoth Text.isOuterBlank text).map plainDigit) with
  | none => none
  | some text =>
    let (negative, rest) := takeSign text
    readUnsigned? negative rest

end ShaderLoom.Decimal
