import ShaderLoom.Literal
import ShaderLoom.Proofs.DenotedLiterals
import ShaderLoom.Proofs.Refusals
import ShaderLoom.Proofs.WrittenDecimals

/-!
# The form of literals

Shader code has literals of three forms: an integer is a sign and digits, a float has a point with
digits on either side and perhaps an exponent part, and a vector is a constructor with one float for
all lanes or with four of them.  Every value gives a literal of the form that the type of its
parameter asks for, whatever the value holds, as long as its integers are near some double.
-/

namespace ShaderLoom

namespace Literal

open Decimal Text

/-! ### Forms -/

/-- One or more digits. -/
def IsDigits (text : List Char) : Prop := text ≠ [] ∧ AllDigit text

/-- An exponent part: the letter, a sign and digits. -/
def IsExponent (text : List Char) : Prop :=
  ∃ sign digits, text = 'e' :: sign :: digits ∧ (sign = '+' ∨ sign = '-') ∧ IsDigits digits

/-- Digits, a point, digits, and perhaps an exponent part. -/
def IsUnsignedFloat (text : List Char) : Prop :=
  ∃ whole fraction tail, text = whole ++ '.' :: (fraction ++ tail) ∧ IsDigits whole ∧
    IsDigits fraction ∧ (tail = [] ∨ IsExponent tail)

/-- A float literal: a number with a point, perhaps behind a sign. -/
def IsFloat (text : List Char) : Prop :=
  ∃ negative number, text = signText negative ++ number ∧ IsUnsignedFloat number

/-- An integer literal: digits, perhaps behind a sign. -/
def IsInteger (text : List Char) : Prop :=
  ∃ negative digits, text = signText negative ++ digits ∧ IsDigits digits

/-- A vector literal: zero for all lanes, or a float literal for each of the four. -/
def IsVector (text : List Char) : Prop :=
  text = "vec4(0.0)".toList ∨ ∃ lanes : List String, lanes.length = 4 ∧
    (∀ lane ∈ lanes, IsFloat lane.toList) ∧
    text = ("vec4(" ++ ", ".intercalate lanes ++ ")").toList

/-- The text is a literal for parameters of the type. -/
def IsLiteral (text : List Char) : ParameterType → Prop
  | .int => IsInteger text
  | .vec4 => IsVector text
  | .float | .string | .array => IsFloat text

/-! ### Literals of doubles -/

/-- A number is written in digits. -/
lemma isDigits_toDigits (n : ℕ) : IsDigits (Nat.toDigits 10 n) :=
  ⟨Nat.toDigits_ne_nil, allDigit_toDigits n⟩

/-- A written exponent has the form of one. -/
lemma isExponent_exponentPart (exponent : ℤ) : IsExponent (exponentPart exponent) := by
  refine ⟨if exponent < 0 then '-' else '+', _, rfl, ?_, ?_, ?_⟩
  · split
    · exact Or.inr rfl
    · exact Or.inl rfl
  · exact List.append_ne_nil_of_right_ne_nil _ Nat.toDigits_ne_nil
  · exact allDigit_append.mpr ⟨allDigit_zeros _, allDigit_toDigits _⟩

/-- A decimal is written in the form of a float. -/
lemma isUnsignedFloat_write {layout : Layout} (hlayout : layout.pointBeforeExponent = true)
    (decimal : Scaled) : IsUnsignedFloat (decimal.write layout) := by
  obtain ⟨number, htext, -, htail⟩ := exists_pointed_write hlayout decimal
  refine ⟨number.whole, number.fraction, number.tail, htext, ⟨number.whole_ne_nil,
    number.whole_digit⟩, ⟨number.fraction_ne_nil, number.fraction_digit⟩, htail.imp_right ?_⟩
  rintro ⟨exponent, htail⟩
  rw [htail]
  exact isExponent_exponentPart exponent

lemma isFloat_zero : IsFloat "0.0".toList :=
  ⟨false, ['0', '.', '0'], rfl, ['0'], ['0'], [], rfl, ⟨List.cons_ne_nil _ _, allDigit_zeros 1⟩,
    ⟨List.cons_ne_nil _ _, allDigit_zeros 1⟩, Or.inl rfl⟩

/-- The literal of a double is a float, also if the double is not finite. -/
lemma isFloat_ofDouble (x : Double) : IsFloat (ofDouble x).toList := by
  unfold ofDouble
  rw [String.toList_ofList]
  cases x with
  | nan => exact isFloat_zero
  | infinite negative => exact isFloat_zero
  | finite negative mantissa exponent => exact ⟨negative, _, rfl, isUnsignedFloat_write rfl _⟩

/-- A written integer has the form of one. -/
lemma isInteger_decimalText (i : ℤ) : IsInteger (decimalText i).toList := by
  unfold decimalText
  rw [String.toList_ofList]
  exact ⟨_, _, rfl, isDigits_toDigits i.natAbs⟩

/-- Written components have the form of a vector. -/
lemma isVector_ofComponents (components : List Double) :
    IsVector (ofComponents components).toList := by
  cases components with
  | nil => exact Or.inl rfl
  | cons first rest =>
    refine Or.inr ⟨(fourComponents (first :: rest)).map ofDouble, ?_, fun lane hlane => ?_, rfl⟩
    · rw [List.length_map, length_fourComponents]
    · obtain ⟨x, -, rfl⟩ := List.mem_map.mp hlane
      exact isFloat_ofDouble x

/-! ### Literals of values -/

/-- A literal has its form if the value gives one of the form, or else its stand-in has it. -/
lemma orElse_of_forall {fallback text : String} {literal : Except NumberFault String}
    {P : String → Prop} (hfallback : P fallback) (hliteral : ∀ text, literal = .ok text → P text)
    (h : orElse fallback literal = .ok text) : P text := by
  cases literal with
  | ok text' =>
    cases h
    exact hliteral _ rfl
  | error cause =>
    cases cause with
    | tooLarge => cases h
    | _ =>
      cases h
      exact hfallback

/-- Whatever literal a value has, it is one for the type of the parameter. -/
lemma isLiteral_of_ofParameter {value : Value} {type : ParameterType} {text : String}
    (h : ofParameter value type = .ok text) : IsLiteral text.toList type := by
  have hfloat : ∀ text, orElse "0.0" (ofValue value) = .ok text → IsFloat text.toList := by
    intro text h
    refine orElse_of_forall (P := fun text => IsFloat text.toList) isFloat_zero ?_ h
    intro text' htext
    obtain ⟨x, -, htext⟩ := bind_eq_ok_iff.mp htext
    cases htext
    exact isFloat_ofDouble x
  cases type with
  | int =>
    cases h
    unfold integerOfValue
    split
    · next i hi =>
      rw [Value.writtenInt_of_toInteger hi]
      exact isInteger_decimalText i
    · exact isInteger_decimalText 0
  | vec4 =>
    refine orElse_of_forall (P := fun text => IsVector text.toList) (Or.inl rfl) ?_ h
    intro text' htext
    unfold vectorOfValue at htext
    split at htext
    · cases htext
      exact isVector_ofComponents []
    · obtain ⟨grid, -, htext⟩ := bind_eq_ok_iff.mp htext
      cases htext
      exact isVector_ofComponents grid.entries
  | float => exact hfloat text h
  | string => exact hfloat text h
  | array => exact hfloat text h

end Literal

/-! ### Values whose integers are not too large -/

namespace Value

/-- Every integer in the value, however deep in its lists, is near some double. -/
def IntegersFit (value : Value) : Prop :=
  ∀ i, .int i ∈ value.leaves → (Double.ofInt? i).isSome = true

variable {value : Value}

/-- Where the integers of a value fit, no leaf is oversized. -/
lemma IntegersFit.isOversized_eq_false (h : value.IntegersFit) {leaf : Value}
    (hleaf : leaf ∈ value.leaves) : leaf.isOversized = false := by
  cases leaf with
  | int i =>
    unfold isOversized
    rw [Option.isNone_eq_false_iff]
    exact h i hleaf
  | _ => rfl

/-- Where the integers of a value fit, it holds no oversized one. -/
lemma IntegersFit.holdsOversized_eq_false (h : value.IntegersFit) :
    value.holdsOversized = false := by
  refine Value.holdsOversized_eq_false fun hgrid => ?_
  unfold toGrid at hgrid
  split at hgrid
  · cases hgrid
  split at hgrid
  · cases hgrid
  -- only an entry can be too large, and entries are leaves
  rcases bind_eq_error_iff.mp hgrid with hentries | ⟨entries, -, hgrid⟩
  · obtain ⟨leaf, hleaf, hentry⟩ := exists_error_of_mapM_eq_error hentries
    unfold gridEntry at hentry
    split at hentry
    · cases hentry
    · have hlarge := toDouble_eq_tooLarge_iff.mp hentry
      rw [h.isOversized_eq_false hleaf] at hlarge
      cases hlarge
  · cases hgrid

/-- A value whose integers fit is refused by no type. -/
lemma IntegersFit.refuses_eq_false (h : value.IntegersFit) (type : ParameterType) :
    type.refuses value = false := by
  have hsingle : value.isOversized = false := by
    cases value with
    | int i => exact h.isOversized_eq_false List.mem_cons_self
    | _ => rfl
  cases type with
  | int => rfl
  | vec4 => exact h.holdsOversized_eq_false
  | float => exact hsingle
  | string => exact hsingle
  | array => exact hsingle

end Value

/-- Every value whose integers are near doubles has a literal of the form that the type of its
parameter asks for. -/
theorem Literal.exists_isLiteral_ofParameter {value : Value} (h : value.IntegersFit)
    (type : ParameterType) :
    ∃ text, ofParameter value type = .ok text ∧ IsLiteral text.toList type := by
  rcases ofParameter_cases value type with ⟨hrefuses, -⟩ | ⟨-, text, htext⟩
  · rw [h.refuses_eq_false type] at hrefuses
    cases hrefuses
  · exact ⟨text, htext, isLiteral_of_ofParameter htext⟩

/-- Numbers, texts and missing values of all kinds, nested regularly. -/
def mixedNumbers : Value :=
  .list [.list [.int (-3), .text " 1_000.5e-7 "], .list [.null, .text "-inf"],
    .list [.bool true, .number (.finite true 1 (-1074))]]

/-- Numbers of all kinds make a vector literal. -/
theorem Literal.exists_isLiteral_ofParameter_mixedNumbers :
    mixedNumbers.IntegersFit ∧ ∃ text, ofParameter mixedNumbers .vec4 = .ok text ∧
      IsLiteral text.toList .vec4 := by
  have hfit : mixedNumbers.IntegersFit := by
    intro i hi
    have hleaf : i = -3 := by
      simpa [mixedNumbers, Value.leaves, Value.leavesOf] using hi
    rw [hleaf]
    decide +kernel
  exact ⟨hfit, exists_isLiteral_ofParameter hfit .vec4⟩

end ShaderLoom
