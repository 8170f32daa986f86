import Mathlib.Data.List.Basic
import ShaderLoom.PortType
import ShaderLoom.Proofs.CharacterClasses
import ShaderLoom.Proofs.LiteralForms
import ShaderLoom.Text.Start

/-!
# Expressions of shader code

The expressions that conversions are made of: names, literals, constructors, parentheses, selected
lanes, and two operands with an operator between them.  Lanes are selected from a single operand, so
an expression with an operator needs parentheses first.  Every typed expression can be read back
from its text; so no text has two meanings.
-/

namespace ShaderLoom

open Text Decimal Literal

/-! ### Words and literals -/

/-- The words that name no variable. -/
def reservedWords : List (List Char) :=
  "true".toList :: "false".toList :: PortType.all.map fun type => type.keyword.toList

/-- A word that can name a variable. -/
def IsVariable (word : List Char) : Prop :=
  word ≠ [] ∧ AllWord word ∧ NotStarting Char.isDigit word ∧ word ∉ reservedWords

instance (word : List Char) : Decidable (AllWord word) :=
  decidable_of_iff (word.all isWord = true) List.all_eq_true

instance (text : List Char) : Decidable (AllDigit text) :=
  decidable_of_iff (text.all Char.isDigit = true) List.all_eq_true

instance (p : Char → Bool) : (text : List Char) → Decidable (NotStarting p text)
  | [] => isTrue notStarting_nil
  | c :: _ => decidable_of_iff (p c = false) notStarting_cons.symm

instance (word : List Char) : Decidable (IsVariable word) :=
  inferInstanceAs (Decidable (_ ∧ _ ∧ _ ∧ _))

instance (text : List Char) : Decidable (IsDigits text) := inferInstanceAs (Decidable (_ ∧ _))

/-- The name of a variable. -/
abbrev VariableName := { word : List Char // IsVariable word }

/-- One or more digits. -/
abbrev Digits := { text : List Char // IsDigits text }

/-- A float literal. -/
structure FloatLiteral where
  negative : Bool
  whole : Digits
  fraction : Digits
  /-- Whether the exponent is negative, and its digits. -/
  exponent : Option (Bool × Digits)
deriving DecidableEq

/-- An integer literal. -/
structure IntegerLiteral where
  negative : Bool
  digits : Digits
deriving DecidableEq

/-- The text of an exponent part. -/
def exponentText : Option (Bool × Digits) → List Char
  | none => []
  | some exponent => 'e' :: (if exponent.1 then '-' else '+') :: exponent.2.val

/-- The text of a float literal. -/
def FloatLiteral.text (literal : FloatLiteral) : List Char :=
  signText literal.negative ++
    (literal.whole.val ++ '.' :: (literal.fraction.val ++ exponentText literal.exponent))

/-- The text of an integer literal. -/
def IntegerLiteral.text (literal : IntegerLiteral) : List Char :=
  signText literal.negative ++ literal.digits.val

/-! ### Selected lanes and operators -/

/-- The letters that lanes are selected by. -/
inductive LetterSet where
  | position
  | color
  | texture
deriving DecidableEq

namespace LetterSet

/-- Every set of letters. -/
def all : List LetterSet := [.position, .color, .texture]

/-- The letter of a lane. -/
def letter (set : LetterSet) (lane : Fin 4) : Char :=
  match set with
  | .position => ['x', 'y', 'z', 'w'].get lane
  | .color => ['r', 'g', 'b', 'a'].get lane
  | .texture => ['s', 't', 'p', 'q'].get lane

/-- The lane of a letter. -/
def lane? (set : LetterSet) (c : Char) : Option (Fin 4) :=
  [0, 1, 2, 3].find? fun lane => set.letter lane == c

end LetterSet

/-- Lanes that are selected by letters of one set. -/
structure Selection where
  letters : LetterSet
  lanes : List (Fin 4)
deriving DecidableEq

/-- The text of a selection. -/
def Selection.text (selection : Selection) : List Char :=
  selection.lanes.map selection.letters.letter

/-- The selection that a word spells. -/
def Selection.ofWord? (word : List Char) : Option Selection :=
  LetterSet.all.findSome? fun letters => (word.mapM letters.lane?).map fun lanes => ⟨letters, lanes⟩

/-- An operator that works lane by lane. -/
inductive Operator where
  | add
  | subtract
  | multiply
  | divide
deriving DecidableEq

namespace Operator

/-- Every operator. -/
def all : List Operator := [.add, .subtract, .multiply, .divide]

/-- The sign of an operator. -/
def symbol : Operator → Char
  | .add => '+'
  | .subtract => '-'
  | .multiply => '*'
  | .divide => '/'

end Operator

/-! ### Expressions -/

/-- An expression of shader code. -/
inductive Expression where
  | name (x : VariableName)
  | float (literal : FloatLiteral)
  | integer (literal : IntegerLiteral)
  | truth (b : Bool)
  | construct (type : PortType) (args : List Expression)
  | group (inner : Expression)
  | select (base : Expression) (selection : Selection)
  | combine (left : Expression) (op : Operator) (right : Expression)

namespace Expression

/-- Induction on expressions, with the hypothesis for every argument of a constructor. -/
@[elab_as_elim, induction_eliminator]
theorem inductOn {motive : Expression → Prop}
    (name : ∀ x, motive (.name x)) (float : ∀ literal, motive (.float literal))
    (integer : ∀ literal, motive (.integer literal)) (truth : ∀ b, motive (.truth b))
    (construct : ∀ type args, (∀ arg ∈ args, motive arg) → motive (.construct type args))
    (group : ∀ inner, motive inner → motive (.group inner))
    (select : ∀ base selection, motive base → motive (.select base selection))
    (combine : ∀ left op right, motive left → motive right → motive (.combine left op right))
    (e : Expression) : motive e :=
  @Expression.rec motive (fun args => ∀ arg ∈ args, motive arg) name float integer truth construct
    group select combine (List.forall_mem_nil motive)
    (fun _ _ hfirst hrest => List.forall_mem_cons.mpr ⟨hfirst, hrest⟩) e

mutual

/-- The text of an expression. -/
def text : Expression → List Char
  | .name x => x.val
  | .float literal => literal.text
  | .integer literal => literal.text
  | .truth b => if b then "true".toList else "false".toList
  | .construct type args => type.keyword.toList ++ '(' :: (textOf args ++ [')'])
  | .group inner => '(' :: (text inner ++ [')'])
  | .select base selection => text base ++ '.' :: selection.text
  | .combine left op right => text left ++ ' ' :: op.symbol :: ' ' :: text right

/-- The text of the arguments of a constructor. -/
def textOf : List Expression → List Char
  | [] => []
  | [arg] => text arg
  | arg :: rest => text arg ++ ',' :: ' ' :: textOf rest

end

/-- Whether the expression is a single operand. -/
def isOperand : Expression → Bool
  | .combine _ _ _ => false
  | _ => true

end Expression

/-! ### Types -/

namespace PortType

/-- The number of lanes of a value. -/
def laneCount : PortType → ℕ
  | .vec2 => 2
  | .vec3 => 3
  | .vec4 => 4
  | _ => 1

/-- The type of so many lanes of a vector. -/
def ofLaneCount? : ℕ → Option PortType
  | 1 => some .float
  | 2 => some .vec2
  | 3 => some .vec3
  | 4 => some .vec4
  | _ => none

/-- The number of lanes of several values. -/
def laneTotal (types : List PortType) : ℕ := (types.map laneCount).sum

/-- Whether a value can be constructed from arguments of the given types: they bring a single lane
for all lanes of the value or enough lanes for each of them, and no argument is of no use. -/
def accepts (type : PortType) (args : List PortType) : Bool :=
  (laneTotal args == 1 || type.laneCount ≤ laneTotal args) &&
    laneTotal args.dropLast < type.laneCount

/-- Whether the lanes of the selection are lanes of a vector. -/
def offers (type : PortType) (selection : Selection) : Bool :=
  type.isVector && selection.lanes.all (·.val < type.laneCount)

end PortType

namespace Expression

variable (types : VariableName → Option PortType)

mutual

/-- The type of an expression, if it has one. -/
def type? : Expression → Option PortType
  | .name x => types x
  | .float _ => some .float
  | .integer _ => some .int
  | .truth _ => some .bool
  | .construct type args => (typesOf? args).bind fun given =>
    if type.accepts given then some type else none
  | .group inner => type? inner
  | .select base selection => (type? base).bind fun type =>
    if base.isOperand && type.offers selection then
      PortType.ofLaneCount? selection.lanes.length
    else none
  | .combine left _ right => (type? left).bind fun first => (type? right).bind fun second =>
    if left.isOperand && right.isOperand && first == second && first != .bool then some first
    else none

/-- The types of several expressions. -/
def typesOf? : List Expression → Option (List PortType)
  | [] => some []
  | arg :: rest => (type? arg).bind fun type => (typesOf? rest).map fun others => type :: others

end

variable {types}

/-! ### Inversions of the types -/

/-- The types of several expressions are those of the first and of the rest. -/
lemma of_typesOf?_cons {arg : Expression} {rest : List Expression} {given : List PortType}
    (h : typesOf? types (arg :: rest) = some given) :
    ∃ type others, given = type :: others ∧ arg.type? types = some type ∧
      typesOf? types rest = some others := by
  rw [typesOf?] at h
  obtain ⟨type, htype, h⟩ := Option.bind_eq_some_iff.mp h
  obtain ⟨others, hothers, rfl⟩ := Option.map_eq_some_iff.mp h
  exact ⟨type, others, rfl, htype, hothers⟩

/-- Where the types of several expressions are known, each of them has one. -/
lemma exists_type?_of_mem {args : List Expression} {given : List PortType}
    (h : typesOf? types args = some given) {arg : Expression} (harg : arg ∈ args) :
    ∃ type, arg.type? types = some type := by
  induction args generalizing given with
  | nil => cases harg
  | cons first rest ih =>
    obtain ⟨type, others, -, hfirst, hrest⟩ := of_typesOf?_cons h
    rcases List.mem_cons.mp harg with rfl | harg
    · exact ⟨type, hfirst⟩
    · exact ih hrest harg

/-- A constructor that has a type has arguments that the type accepts. -/
lemma of_type?_construct {type found : PortType} {args : List Expression}
    (h : (construct type args).type? types = some found) :
    found = type ∧ ∃ given, typesOf? types args = some given ∧ type.accepts given = true := by
  rw [type?] at h
  obtain ⟨given, hgiven, h⟩ := Option.bind_eq_some_iff.mp h
  split at h
  · next haccepts =>
    cases h
    exact ⟨rfl, given, hgiven, haccepts⟩
  · cases h

/-- Lanes are selected from a single operand that offers them. -/
lemma of_type?_select {base : Expression} {selection : Selection} {found : PortType}
    (h : (select base selection).type? types = some found) :
    ∃ type, base.type? types = some type ∧ base.isOperand = true ∧
      type.offers selection = true ∧
      PortType.ofLaneCount? selection.lanes.length = some found := by
  rw [type?] at h
  obtain ⟨type, htype, h⟩ := Option.bind_eq_some_iff.mp h
  split at h
  · next hoffers =>
    rw [Bool.and_eq_true] at hoffers
    exact ⟨type, htype, hoffers.1, hoffers.2, h⟩
  · cases h

/-- An operator joins two operands of one type that is no truth. -/
lemma of_type?_combine {left right : Expression} {op : Operator} {found : PortType}
    (h : (combine left op right).type? types = some found) :
    left.type? types = some found ∧ right.type? types = some found ∧ found ≠ .bool ∧
      left.isOperand = true ∧ right.isOperand = true := by
  rw [type?] at h
  obtain ⟨first, hfirst, h⟩ := Option.bind_eq_some_iff.mp h
  obtain ⟨second, hsecond, h⟩ := Option.bind_eq_some_iff.mp h
  split at h
  · next hboth =>
    cases h
    simp only [Bool.and_eq_true, beq_iff_eq, bne_iff_ne, ne_eq] at hboth
    obtain ⟨⟨⟨hleft, hright⟩, rfl⟩, hbool⟩ := hboth
    exact ⟨hfirst, hsecond, hbool, hleft, hright⟩
  · cases h

/-! ### Reading numbers and words -/

/-- The digits at the front of a text. -/
def digits? (text : List Char) : Option (Digits × List Char) :=
  if h : IsDigits (text.takeWhile Char.isDigit) then
    some (⟨_, h⟩, text.dropWhile Char.isDigit)
  else none

/-- The exponent part at the front of a text. -/
def exponent? : List Char → Option (Bool × Digits) × List Char
  | 'e' :: sign :: rest => match digits? rest with
    | some found => (some (sign == '-', found.1), found.2)
    | none => (none, 'e' :: sign :: rest)
  | text => (none, text)

/-- The number at the front of a text, which has no sign. -/
def unsigned? (negative : Bool) (text : List Char) : Option (Expression × List Char) :=
  (digits? text).bind fun whole => match whole.2 with
    | '.' :: rest => (digits? rest).map fun fraction =>
      (.float ⟨negative, whole.1, fraction.1, (exponent? fraction.2).1⟩, (exponent? fraction.2).2)
    | rest => some (.integer ⟨negative, whole.1⟩, rest)

/-- The number at the front of a text. -/
def number? : List Char → Option (Expression × List Char)
  | '-' :: rest => unsigned? true rest
  | text => unsigned? false text

/-- The type with the given keyword. -/
def typeOfKeyword? (word : List Char) : Option PortType :=
  PortType.all.find? fun type => type.keyword.toList == word

/-- The truth or the variable that a word spells. -/
def ofWord? (word : List Char) : Option Expression :=
  if word = "true".toList then some (.truth true)
  else if word = "false".toList then some (.truth false)
  else if h : IsVariable word then some (.name ⟨word, h⟩)
  else none

/-- The expression that begins with a word, where `args?` reads the arguments of a constructor. -/
def afterWord? (args? : List Char → Option (List Expression × List Char)) (word rest : List Char) :
    Option (Expression × List Char) :=
  match typeOfKeyword? word with
  | some type =>
    ((after? ['('] rest).bind args?).map fun found => (.construct type found.1, found.2)
  | none => (ofWord? word).map fun found => (found, rest)

/-- The operator at the front of a text, between blanks. -/
def operator? : List Char → Option (Operator × List Char)
  | ' ' :: sign :: ' ' :: rest =>
    (Operator.all.find? fun op => op.symbol == sign).map fun op => (op, rest)
  | _ => none

/-- An expression with the selections at the front of a text. -/
def withSelections (base : Expression) (text : List Char) : Expression × List Char :=
  match text with
  | '.' :: rest => match Selection.ofWord? (rest.takeWhile isWord) with
    | some selection => withSelections (.select base selection) (rest.dropWhile isWord)
    | none => (base, '.' :: rest)
  | text => (base, text)
termination_by text.length
decreasing_by
  have hlength := (List.dropWhile_suffix isWord (l := rest)).length_le
  simp only [List.length_cons]
  omega

/-- What was read, with the selections behind it. -/
def selected (found : Option (Expression × List Char)) : Option (Expression × List Char) :=
  found.map fun first => withSelections first.1 first.2

/-! ### Reading expressions -/

mutual

/-- The expression at the front of a text, up to the first selection or operator. -/
def readAtom? : ℕ → List Char → Option (Expression × List Char)
  | 0, _ => none
  | fuel + 1, text => match after? ['('] text with
    | some rest => (readExpression? fuel rest).bind fun found =>
      (after? [')'] found.2).map fun rest => (.group found.1, rest)
    | none => match number? text with
      | some found => some found
      | none => afterWord? (readArgs? fuel) (text.takeWhile isWord) (text.dropWhile isWord)

/-- The expression at the front of a text. -/
def readExpression? : ℕ → List Char → Option (Expression × List Char)
  | 0, _ => none
  | fuel + 1, text => (selected (readAtom? fuel text)).bind fun left => match operator? left.2 with
    | some found => (selected (readAtom? fuel found.2)).map fun right =>
      (.combine left.1 found.1 right.1, right.2)
    | none => some left

/-- The arguments at the front of a text, up to the closing parenthesis. -/
def readArgs? : ℕ → List Char → Option (List Expression × List Char)
  | 0, _ => none
  | fuel + 1, text => (readExpression? fuel text).bind fun first => match first.2 with
    | ')' :: rest => some ([first.1], rest)
    | ',' :: ' ' :: rest => (readArgs? fuel rest).map fun others => (first.1 :: others.1, others.2)
    | _ => none

end

/-- The expression that a text spells. -/
def read? (text : List Char) : Option Expression :=
  (readExpression? (2 * text.length + 1) text).bind fun found =>
    if found.2 = [] then some found.1 else none

/-! ### Numbers and words are read back -/

/-- Digits are read up to the first character that is none. -/
lemma digits?_append (digits : Digits) {rest : List Char} (hrest : NotStarting Char.isDigit rest) :
    digits? (digits.val ++ rest) = some (digits, rest) := by
  unfold digits?
  have hrun := takeWhile_run digits.property.2 hrest
  rw [dif_pos (by rw [hrun]; exact digits.property), dropWhile_run digits.property.2 hrest]
  simp only [hrun]

lemma digits?_eq_none {text : List Char} (h : NotStarting Char.isDigit text) :
    digits? text = none := by
  unfold digits?
  refine dif_neg fun hdigits => hdigits.1 ?_
  exact takeWhile_run (List.forall_mem_nil _) h

/-- What begins with no word character begins with no digit. -/
lemma notStarting_isDigit {text : List Char} (h : NotStarting isWord text) :
    NotStarting Char.isDigit text := by
  intro c hc
  cases hdigit : c.isDigit with
  | false => rfl
  | true =>
    have hword : isWord c = true :=
      isWord_of_isAlphanum (by rw [Char.isAlphanum, hdigit, Bool.or_true])
    rw [h c hc] at hword
    cases hword

/-- The exponent part of a literal is read back. -/
lemma exponent?_append (exponent : Option (Bool × Digits)) {rest : List Char}
    (hrest : NotStarting isWord rest) :
    exponent? (exponentText exponent ++ rest) = (exponent, rest) := by
  cases exponent with
  | none =>
    cases rest with
    | nil => rfl
    | cons c rest =>
      have hne : c ≠ 'e' := by
        rintro rfl
        have h := notStarting_cons.mp hrest
        revert h
        decide
      simp [exponentText, exponent?, hne]
  | some exponent =>
    obtain ⟨negative, digits⟩ := exponent
    simp only [exponentText, List.cons_append, exponent?]
    rw [digits?_append digits (notStarting_isDigit hrest)]
    cases negative <;> rfl

/-- The sign of a literal is read before its digits. -/
lemma number?_signText (negative : Bool) (digits : Digits) (rest : List Char) :
    number? (signText negative ++ (digits.val ++ rest)) =
      unsigned? negative (digits.val ++ rest) := by
  cases negative with
  | true => rfl
  | false =>
    obtain ⟨text, hne, hdigits⟩ := digits
    cases text with
    | nil => exact absurd rfl hne
    | cons c text =>
      have hsign : c ≠ '-' := by
        rintro rfl
        have hdigit := hdigits '-' List.mem_cons_self
        revert hdigit
        decide
      simp [signText, number?, hsign]

/-- A float literal is read back. -/
lemma number?_float (literal : FloatLiteral) {rest : List Char} (hrest : NotStarting isWord rest) :
    number? (literal.text ++ rest) = some (.float literal, rest) := by
  have hpoint : NotStarting Char.isDigit ('.' :: (literal.fraction.val ++
      (exponentText literal.exponent ++ rest))) := notStarting_cons.mpr (by decide)
  have hexponent : NotStarting Char.isDigit (exponentText literal.exponent ++ rest) := by
    cases literal.exponent with
    | none => exact notStarting_isDigit hrest
    | some exponent => exact notStarting_cons.mpr (by decide)
  rw [FloatLiteral.text, List.append_assoc, List.append_assoc, List.cons_append, List.append_assoc,
    number?_signText]
  unfold unsigned?
  rw [digits?_append _ hpoint]
  simp only [Option.bind_some]
  rw [digits?_append _ hexponent, Option.map_some, exponent?_append _ hrest]

/-- An integer literal is read back, if no point follows it. -/
lemma number?_integer (literal : IntegerLiteral) {rest : List Char}
    (hrest : NotStarting isWord rest) (hpoint : NotStarting (· == '.') rest) :
    number? (literal.text ++ rest) = some (.integer literal, rest) := by
  rw [IntegerLiteral.text, List.append_assoc, number?_signText]
  unfold unsigned?
  rw [digits?_append _ (notStarting_isDigit hrest), Option.bind_some]
  cases rest with
  | nil => rfl
  | cons c rest =>
    have hne : c ≠ '.' := by simpa using hpoint
    simp [hne]

/-- Without a digit and a sign in front, no number is read. -/
lemma number?_eq_none {text : List Char} (hdigit : NotStarting Char.isDigit text)
    (hsign : NotStarting (· == '-') text) : number? text = none := by
  have hnone : unsigned? false text = none := by
    unfold unsigned?
    rw [digits?_eq_none hdigit]
    rfl
  cases text with
  | nil => exact hnone
  | cons c text =>
    have hne : c ≠ '-' := by simpa using hsign
    simpa [number?, hne] using hnone

/-- The keyword of a type is read as the type. -/
lemma typeOfKeyword?_keyword (type : PortType) :
    typeOfKeyword? type.keyword.toList = some type := by
  cases type <;> rfl

/-- The words for truths are read as truths. -/
lemma afterWord?_truth (args? : List Char → Option (List Expression × List Char)) (b : Bool)
    (rest : List Char) :
    afterWord? args? (truth b).text rest = some (.truth b, rest) := by
  cases b <;> rfl

/-- Any other word is read as a name. -/
lemma afterWord?_name (args? : List Char → Option (List Expression × List Char))
    (x : VariableName) (rest : List Char) :
    afterWord? args? x.val rest = some (.name x, rest) := by
  obtain ⟨word, hword⟩ := x
  obtain ⟨-, -, -, hreserved⟩ := id hword
  simp only [reservedWords, List.mem_cons, List.mem_map, not_or, not_exists, not_and] at hreserved
  obtain ⟨htrue, hfalse, hkeyword⟩ := hreserved
  have htype : typeOfKeyword? word = none := by
    unfold typeOfKeyword?
    rw [List.find?_eq_none]
    intro type htype heq
    exact hkeyword type htype (beq_iff_eq.mp heq)
  unfold afterWord? ofWord?
  rw [htype, if_neg htrue, if_neg hfalse, dif_pos hword]
  rfl

/-- A mark is not found in front of a text that begins otherwise. -/
lemma after?_eq_none {c d : Char} {text : List Char} (h : c ≠ d) :
    after? [d] (c :: text) = none := by
  simp [after?, Ne.symm h]

/-- An expression that begins with a word is read by this word. -/
lemma readAtom?_word (fuel : ℕ) {word rest : List Char} (hne : word ≠ []) (hword : AllWord word)
    (hdigit : NotStarting Char.isDigit word) (hrest : NotStarting isWord rest) :
    readAtom? (fuel + 1) (word ++ rest) = afterWord? (readArgs? fuel) word rest := by
  cases word with
  | nil => exact absurd rfl hne
  | cons c word =>
    have hc : isWord c = true := hword c List.mem_cons_self
    have hparenthesis : c ≠ '(' := by
      rintro rfl
      revert hc
      decide
    have hsign : (c == '-') = false := by
      rw [beq_eq_false_iff_ne]
      rintro rfl
      revert hc
      decide
    have hnumber : number? (c :: word ++ rest) = none :=
      number?_eq_none (notStarting_cons.mpr (notStarting_cons.mp hdigit))
        (notStarting_cons.mpr hsign)
    rw [readAtom?, List.cons_append, after?_eq_none hparenthesis]
    simp only
    rw [← List.cons_append, hnumber, takeWhile_run hword hrest, dropWhile_run hword hrest]

/-- A number is read as such. -/
lemma readAtom?_number (fuel : ℕ) {text : List Char} {found : Expression × List Char}
    (h : number? text = some found) : readAtom? (fuel + 1) text = some found := by
  have hparenthesis : after? ['('] text = none := by
    cases hafter : after? ['('] text with
    | none => rfl
    | some rest =>
      rw [after?_eq_some_iff.mp hafter] at h
      cases (number?_eq_none (notStarting_cons.mpr rfl) (notStarting_cons.mpr rfl)).symm.trans h
  rw [readAtom?, hparenthesis]
  simp only [h]

/-! ### Selections are read back -/

/-- The letter of a lane stands for the lane. -/
lemma lane?_letter (letters : LetterSet) (lane : Fin 4) :
    letters.lane? (letters.letter lane) = some lane := by
  revert lane
  cases letters <;> decide

/-- A letter belongs to one set. -/
lemma eq_of_lane?_letter {letters others : LetterSet} {lane : Fin 4}
    (h : (others.lane? (letters.letter lane)).isSome = true) : others = letters := by
  revert lane
  cases letters <;> cases others <;> decide

lemma isWord_letter (letters : LetterSet) (lane : Fin 4) : isWord (letters.letter lane) = true := by
  revert lane
  cases letters <;> decide

/-- Letters of one set are read back lane by lane. -/
lemma mapM_lane?_letters (letters : LetterSet) (lanes : List (Fin 4)) :
    (lanes.map letters.letter).mapM letters.lane? = some lanes := by
  induction lanes with
  | nil => rfl
  | cons lane rest ih =>
    rw [List.map_cons, List.mapM_cons, lane?_letter, ih]
    rfl

/-- The sets share no letter, so letters of one set are not read by another. -/
lemma mapM_lane?_others {letters others : LetterSet} (h : others ≠ letters) {lanes : List (Fin 4)}
    (hne : lanes ≠ []) : (lanes.map letters.letter).mapM others.lane? = none := by
  cases lanes with
  | nil => exact absurd rfl hne
  | cons lane rest =>
    have hnone : others.lane? (letters.letter lane) = none := by
      rw [← Option.not_isSome_iff_eq_none]
      exact fun hsome => h (eq_of_lane?_letter hsome)
    rw [List.map_cons, List.mapM_cons, hnone]
    rfl

/-- Selected lanes are read back from their letters. -/
lemma ofWord?_text (selection : Selection) (h : selection.lanes ≠ []) :
    Selection.ofWord? selection.text = some selection := by
  obtain ⟨letters, lanes⟩ := selection
  have hself := mapM_lane?_letters letters lanes
  have hothers : ∀ others, others ≠ letters → (lanes.map letters.letter).mapM others.lane? = none :=
    fun others hne => mapM_lane?_others hne h
  cases letters <;>
    simp [Selection.ofWord?, Selection.text, LetterSet.all, hself, hothers, -List.mapM_map]

/-- Lanes that are selected from an expression are read behind it. -/
lemma withSelections_select (base : Expression) (selection : Selection)
    (h : selection.lanes ≠ []) {rest : List Char} (hrest : NotStarting isWord rest) :
    withSelections base ('.' :: (selection.text ++ rest)) =
      withSelections (.select base selection) rest := by
  have hword : AllWord selection.text := by
    intro c hc
    obtain ⟨lane, -, rfl⟩ := List.mem_map.mp hc
    exact isWord_letter selection.letters lane
  rw [withSelections, takeWhile_run hword hrest, dropWhile_run hword hrest,
    ofWord?_text selection h]

/-- Where no point follows, no lanes are selected. -/
lemma withSelections_of_notStarting (base : Expression) {rest : List Char}
    (h : NotStarting (· == '.') rest) : withSelections base rest = (base, rest) := by
  cases rest with
  | nil => rw [withSelections]; simp
  | cons c rest =>
    have hne : c ≠ '.' := by simpa using h
    rw [withSelections]
    simpa using hne

/-! ### Expressions are read back -/

/-- The text behind an expression ends it: it does not go on with the last word, nor with the
fraction of a number. -/
def Ends (e : Expression) (rest : List Char) : Prop :=
  NotStarting isWord rest ∧
    (∀ literal, e = .integer literal → NotStarting (· == '.') rest)

/-- The text behind an expression closes it, as a parenthesis or a comma does. -/
def Closes (rest : List Char) : Prop := ∀ c ∈ rest.head?, c = ')' ∨ c = ','

/-- What closes an argument begins with a parenthesis or a comma. -/
lemma Closes.notStarting {p : Char → Bool} (hparenthesis : p ')' = false) (hcomma : p ',' = false)
    {rest : List Char} (h : Closes rest) : NotStarting p rest := by
  intro c hc
  rcases h c hc with rfl | rfl
  · exact hparenthesis
  · exact hcomma

/-- Whatever closes an argument ends the expression in it. -/
lemma Closes.ends {rest : List Char} (h : Closes rest) (e : Expression) : Ends e rest :=
  ⟨h.notStarting (by decide) (by decide), fun _ _ => h.notStarting rfl rfl⟩

/-- No operator closes an argument. -/
lemma Closes.operator? {rest : List Char} (h : Closes rest) : operator? rest = none := by
  have hblank := h.notStarting (p := (· == ' ')) rfl rfl
  cases rest with
  | nil => rfl
  | cons c rest =>
    have hne : c ≠ ' ' := by simpa using hblank
    simp [Expression.operator?, hne]

/-- An operator between blanks is read back. -/
lemma operator?_symbol (op : Operator) (rest : List Char) :
    operator? (' ' :: op.symbol :: ' ' :: rest) = some (op, rest) := by
  cases op <;> rfl

/-- An operand is read back, with the selections behind it. -/
def ReadsOperand (e : Expression) : Prop :=
  ∀ fuel rest, 2 * e.text.length ≤ fuel → e.Ends rest →
    selected (readAtom? fuel (e.text ++ rest)) = some (withSelections e rest)

/-- An expression is read back. -/
def Reads (e : Expression) : Prop :=
  ∀ fuel rest, 2 * e.text.length < fuel → Closes rest →
    readExpression? fuel (e.text ++ rest) = some (e, rest)

/-- An operand is an expression. -/
lemma ReadsOperand.reads {e : Expression} (h : e.ReadsOperand) : e.Reads := by
  intro fuel rest hfuel hrest
  obtain ⟨fuel, rfl⟩ := Nat.exists_eq_add_one_of_ne_zero (Nat.ne_zero_of_lt hfuel)
  have hpoint : NotStarting (· == '.') rest := hrest.notStarting rfl rfl
  rw [readExpression?, h fuel rest (by omega) (hrest.ends e),
    withSelections_of_notStarting e hpoint, Option.bind_some, hrest.operator?]

/-- Two operands with an operator between them are read back when both operands are. -/
lemma reads_combine {left right : Expression} (op : Operator) (hleft : left.ReadsOperand)
    (hright : right.ReadsOperand) : (combine left op right).Reads := by
  intro fuel rest hfuel hrest
  obtain ⟨fuel, rfl⟩ := Nat.exists_eq_add_one_of_ne_zero (Nat.ne_zero_of_lt hfuel)
  rw [text, List.length_append, List.length_cons, List.length_cons, List.length_cons] at hfuel
  have hpoint : NotStarting (· == '.') rest := hrest.notStarting rfl rfl
  have hends : left.Ends (' ' :: op.symbol :: ' ' :: (right.text ++ rest)) :=
    ⟨notStarting_cons.mpr (by decide), fun _ _ => notStarting_cons.mpr rfl⟩
  rw [text, List.append_assoc, readExpression?]
  simp only [List.cons_append]
  rw [hleft fuel _ (by omega) hends, withSelections_of_notStarting _ (notStarting_cons.mpr rfl),
    Option.bind_some, operator?_symbol]
  simp only
  rw [hright fuel rest (by omega) (hrest.ends right), withSelections_of_notStarting _ hpoint,
    Option.map_some]

lemma textOf_cons_cons (arg next : Expression) (rest : List Expression) :
    textOf (arg :: next :: rest) = arg.text ++ ',' :: ' ' :: textOf (next :: rest) := rfl

/-- The arguments of a constructor are read back. -/
lemma readArgs?_textOf {args : List Expression} (hne : args ≠ []) (h : ∀ arg ∈ args, arg.Reads)
    {fuel : ℕ} (hfuel : 2 * (textOf args).length + 1 < fuel) (rest : List Char) :
    readArgs? fuel (textOf args ++ ')' :: rest) = some (args, rest) := by
  induction args generalizing fuel with
  | nil => exact absurd rfl hne
  | cons arg others ih =>
    obtain ⟨fuel, rfl⟩ := Nat.exists_eq_add_one_of_ne_zero (Nat.ne_zero_of_lt hfuel)
    have harg := h arg List.mem_cons_self
    cases others with
    | nil =>
      rw [textOf] at hfuel ⊢
      rw [readArgs?, harg fuel _ (by omega) (by simp [Closes])]
      rfl
    | cons next others =>
      rw [textOf_cons_cons, List.length_append, List.length_cons, List.length_cons] at hfuel
      have hothers : readArgs? fuel (textOf (next :: others) ++ ')' :: rest) =
          some (next :: others, rest) :=
        ih (List.cons_ne_nil _ _)
          (fun other hother => h other (List.mem_cons_of_mem arg hother)) (by omega)
      rw [textOf_cons_cons, readArgs?, List.append_assoc, harg fuel _ (by omega) (by simp [Closes])]
      simp only [List.cons_append, Option.bind_some]
      rw [hothers, Option.map_some]

lemma after?_self (c : Char) (text : List Char) : after? [c] (c :: text) = some text :=
  after?_eq_some_iff.mpr rfl

/-- What is read at once is read as an operand. -/
lemma readsOperand_of_readAtom? {e : Expression} (hne : e.text ≠ [])
    (h : ∀ fuel rest, 2 * e.text.length ≤ fuel + 1 → e.Ends rest →
      readAtom? (fuel + 1) (e.text ++ rest) = some (e, rest)) : e.ReadsOperand := by
  intro fuel rest hfuel hends
  have hlength := List.length_pos_iff.mpr hne
  obtain ⟨fuel, rfl⟩ := Nat.exists_eq_add_one_of_ne_zero (show fuel ≠ 0 by omega)
  rw [h fuel rest hfuel hends]
  rfl

lemma readsOperand_name (x : VariableName) : (name x).ReadsOperand := by
  obtain ⟨hne, hword, hdigit, -⟩ := x.property
  refine readsOperand_of_readAtom? hne fun fuel rest _ hends => ?_
  rw [text, readAtom?_word fuel hne hword hdigit hends.1, afterWord?_name]

/-- A float literal is read back as an operand. -/
lemma readsOperand_float (literal : FloatLiteral) : (float literal).ReadsOperand := by
  refine readsOperand_of_readAtom? ?_ fun fuel rest _ hends =>
    readAtom?_number fuel (number?_float literal hends.1)
  simp [text, FloatLiteral.text]

/-- An integer literal is read back as an operand. -/
lemma readsOperand_integer (literal : IntegerLiteral) : (integer literal).ReadsOperand := by
  refine readsOperand_of_readAtom? ?_ fun fuel rest _ hends =>
    readAtom?_number fuel (number?_integer literal hends.1 (hends.2 literal rfl))
  exact List.append_ne_nil_of_right_ne_nil _ literal.digits.property.1

lemma readsOperand_truth (b : Bool) : (truth b).ReadsOperand := by
  refine readsOperand_of_readAtom? (by cases b <;> decide) fun fuel rest _ hends => ?_
  rw [readAtom?_word fuel (by cases b <;> decide) (by cases b <;> decide) (by cases b <;> decide)
    hends.1, afterWord?_truth]

/-- A constructor is read back when its arguments are. -/
lemma readsOperand_construct (type : PortType) {args : List Expression} (hne : args ≠ [])
    (h : ∀ arg ∈ args, arg.Reads) : (construct type args).ReadsOperand := by
  refine readsOperand_of_readAtom? (by simp [text]) fun fuel rest hfuel hends => ?_
  have hkeyword : 3 ≤ type.keyword.toList.length := by cases type <;> decide
  simp only [text, List.length_append, List.length_cons, List.length_nil] at hfuel
  rw [text, List.append_assoc, List.cons_append, List.append_assoc, List.singleton_append,
    readAtom?_word fuel (by cases type <;> decide) (by cases type <;> decide)
      (by cases type <;> decide) (notStarting_cons.mpr (by decide))]
  unfold afterWord?
  rw [typeOfKeyword?_keyword]
  simp only
  rw [after?_self, Option.bind_some, readArgs?_textOf hne h (by omega), Option.map_some]

/-- What stands in parentheses is read back when its inside is. -/
lemma readsOperand_group {inner : Expression} (h : inner.Reads) : (group inner).ReadsOperand := by
  refine readsOperand_of_readAtom? (by simp [text]) fun fuel rest hfuel hends => ?_
  simp only [text, List.length_append, List.length_cons, List.length_nil] at hfuel
  rw [text, List.cons_append, List.append_assoc, List.singleton_append, readAtom?, after?_self]
  simp only
  rw [h fuel _ (by omega) (by simp [Closes]), Option.bind_some, after?_self, Option.map_some]

/-- Selections are read one after the other, from the first operand on. -/
lemma readsOperand_select {base : Expression} {selection : Selection} (hbase : base.ReadsOperand)
    (hnumber : ∀ literal, base ≠ .integer literal) (hne : selection.lanes ≠ []) :
    (select base selection).ReadsOperand := by
  intro fuel rest hfuel hends
  simp only [text, List.length_append, List.length_cons] at hfuel
  -- the selection belongs to what follows the base, and a point after an integer would not
  have hbase_ends : base.Ends ('.' :: (selection.text ++ rest)) :=
    ⟨notStarting_cons.mpr (by decide), fun literal heq => absurd heq (hnumber literal)⟩
  rw [text, List.append_assoc, List.cons_append, hbase fuel _ (by omega) hbase_ends,
    withSelections_select base selection hne hends.1]

/-- A typed expression is read back; an operand also if selections follow. -/
lemma reads_of_type? {e : Expression} {type : PortType} (h : e.type? types = some type) :
    e.Reads ∧ (e.isOperand = true → e.ReadsOperand) := by
  have of_operand : ∀ {e : Expression}, e.ReadsOperand →
      e.Reads ∧ (e.isOperand = true → e.ReadsOperand) :=
    fun hreads => ⟨hreads.reads, fun _ => hreads⟩
  induction e generalizing type with
  | name x => exact of_operand (readsOperand_name x)
  | float literal => exact of_operand (readsOperand_float literal)
  | integer literal => exact of_operand (readsOperand_integer literal)
  | truth b => exact of_operand (readsOperand_truth b)
  | construct constructed args ih =>
    obtain ⟨-, given, hgiven, haccepts⟩ := of_type?_construct h
    refine of_operand (readsOperand_construct constructed ?_ fun arg harg => ?_)
    · rintro rfl
      cases hgiven
      revert haccepts
      cases constructed <;> decide
    · obtain ⟨found, hfound⟩ := exists_type?_of_mem hgiven harg
      exact (ih arg harg hfound).1
  | group inner ih => exact of_operand (readsOperand_group (ih h).1)
  | select base selection ih =>
    obtain ⟨found, hbase, hoperand, hoffers, hlanes⟩ := of_type?_select h
    -- an integer has no lanes to select, and something is selected
    refine of_operand (readsOperand_select ((ih hbase).2 hoperand) ?_ ?_)
    · rintro literal rfl
      cases hbase
      cases hoffers
    · intro hnil
      rw [hnil] at hlanes
      cases hlanes
  | combine left op right ihleft ihright =>
    obtain ⟨hleft, hright, -, hoperand, hoperand'⟩ := of_type?_combine h
    exact ⟨reads_combine op ((ihleft hleft).2 hoperand) ((ihright hright).2 hoperand'),
      fun hcombined => absurd hcombined Bool.false_ne_true⟩

/-- A typed expression is what its text spells. -/
theorem read?_text {e : Expression} {type : PortType} (h : e.type? types = some type) :
    read? e.text = some e := by
  have hreads := (reads_of_type? h).1 (2 * e.text.length + 1) [] (by omega) (by simp [Closes])
  rw [List.append_nil] at hreads
  unfold read?
  rw [hreads]
  rfl

end Expression

end ShaderLoom
