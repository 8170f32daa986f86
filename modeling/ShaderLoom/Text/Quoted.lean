import ShaderLoom.Text.Printable

/-!
# Quoted text

How a text is shown inside a message: between apostrophes, or between double quotes when it holds
an apostrophe and no double quote.  The backslash and the mark in use are escaped, and a character
that is not printable is shown by its code point.
-/

namespace ShaderLoom.Text

/-- `n` in hexadecimal, with zeros in front up to `width` digits. -/
def hexadecimal (width n : Nat) : List Char :=
  let digits := Nat.toDigits 16 n
  List.replicate (width - digits.length) '0' ++ digits

/-- A character that is not printable, by the shortest of the three forms of its code point. -/
def codePoint (n : Nat) : List Char :=
  if n < 0x100 then '\\' :: 'x' :: hexadecimal 2 n
  else if n < 0x10000 then '\\' :: 'u' :: hexadecimal 4 n
  else '\\' :: 'U' :: hexadecimal 8 n

/-- One character of a text quoted with `mark`. -/
def quotedChar (mark c : Char) : List Char :=
  if c = mark || c = '\\' then ['\\', c]
  else if c = '\n' then ['\\', 'n']
  else if c = '\r' then ['\\', 'r']
  else if c = '\t' then ['\\', 't']
  else if isPrintable c then [c]
  else codePoint c.toNat

/-- The mark that quotes a text. -/
def quoteMark (text : List Char) : Char :=
  if text.contains '\'' && !text.contains '"' then '"' else '\''

/-- A text between quotes. -/
def quoted (text : List Char) : List Char :=
  let mark := quoteMark text
  mark :: text.flatMap (quotedChar mark) ++ [mark]

end ShaderLoom.Text
