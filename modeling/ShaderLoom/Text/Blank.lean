import ShaderLoom.Text.Ranges

/-!
# Blank characters

The blank characters of Unicode, and trimming a text of them.
-/

namespace ShaderLoom.Text

/-- The blank characters: those of bidirectional class `WS`, `B` or `S`, and the separators. -/
def blankRanges : List (Nat × Nat) :=
  [(0x9, 0xd), (0x1c, 0x20), (0x85, 0x85), (0xa0, 0xa0), (0x1680, 0x1680), (0x2000, 0x200a),
   (0x2028, 0x2029), (0x202f, 0x202f), (0x205f, 0x205f), (0x3000, 0x3000)]

/-- Whether `c` is a blank character. -/
def isBlank (c : Char) : Bool := inRanges blankRanges c.toNat

/-- A blank that may stand around a number: every blank but the four information separators. -/
def isOuterBlank (c : Char) : Bool := isBlank c && !(0x1c ≤ c.toNat && c.toNat ≤ 0x1f)

/-- `text` without the characters of class `p` at its two ends. -/
def trimBoth (p : Char → Bool) (text : List Char) : List Char :=
  ((text.dropWhile p).reverse.dropWhile p).reverse

/-- `text` without the blanks at its two ends. -/
def trim (text : List Char) : List Char := trimBoth isBlank text

/-- Whether `text` holds nothing but blanks. -/
def allBlank (text : List Char) : Bool := text.all isBlank

end ShaderLoom.Text
