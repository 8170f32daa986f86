/-!
# Why a value is no number

The causes for which a parameter value cannot be read as a number.
-/

namespace ShaderLoom

/-- A cause for which a value cannot be turned into a number. -/
inductive NumberFault where
  /-- The value is of a kind that holds no number. -/
  | notNumeric
  /-- The text does not spell a number. -/
  | unreadable (text : String)
  /-- The integer lies outside the range of double-precision numbers. -/
  | tooLarge
  /-- An infinite number has no integer near it. -/
  | infinite
  /-- Not-a-number has no integer near it. -/
  | notANumber
  /-- Nested lists of unequal shape, or nested too deeply. -/
  | ragged
deriving DecidableEq, Inhabited

end ShaderLoom
