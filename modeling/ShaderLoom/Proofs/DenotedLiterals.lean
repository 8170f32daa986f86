import ShaderLoom.Literal
import ShaderLoom.Proofs.TextPieces
import ShaderLoom.Proofs.WrittenDecimals
import ShaderLoom.Text.Start

/-!
# What literals denote

A literal of shader code is read back: an integer from its digits, a float as the double nearest to
its decimal, and a vector from the arguments of its constructor, of which a single one counts for
every lane.  The literal of a finite double denotes this double; a double that is not finite has no
literal, and zero is written in its place.
-/

namespace ShaderLoom

namespace Double

/-- Whether the number is finite. -/
def isFinite : Double → Bool
  | .finite .. => true
  | _ => false

/-- The double that the literal of a double stands for. -/
def shown (x : Double) : Double := if x.isFinite then x else zero

end Double

namespace Literal

open Text Decimal

/-! ### Reading a literal -/

/-- The integer that a literal denotes. -/
def readInteger? (text : List Char) : Option Int :=
  let (negative, digits) := takeSign text
  if digits ≠ [] ∧ digits.all Char.isDigit = true then
    some (Double.signed negative (digitsValue digits))
  else none

/-- The arguments of the constructor of a vector with four lanes. -/
def arguments? (text : List Char) : Option (List (List Char)) :=
  (after? "vec4(".toList text).bind fun rest =>
    if rest.getLast? = some ')' then some (splitOn ',' rest.dropLast) else none

/-- The lanes of a vector that is constructed from one number or from four. -/
def lanes? : List Double → Option (List Double)
  | [x] => some [x, x, x, x]
  | [x, y, z, w] => some [x, y, z, w]
  | _ => none

/-- The lanes of the vector that a literal denotes. -/
def readVector? (text : List Char) : Option (List Double) :=
  ((arguments? text).bind fun parts => parts.mapM read?).bind lanes?

/-- The value that a literal of a type denotes. -/
def denoted? (text : String) : ParameterType → Option Value
  | .int => (readInteger? text.toList).map .int
  | .vec4 => (readVector? text.toList).map fun lanes => .list (lanes.map .number)
  | _ => (read? text.toList).map .number

/-! ### Scalars -/

/-- A written integer is read back. -/
lemma readInteger?_decimalText (i : Int) : readInteger? (decimalText i).toList = some i := by
  have hdigits := allDigit_toDigits i.natAbs
  have hne : Nat.toDigits 10 i.natAbs ≠ [] := Nat.toDigits_ne_nil
  obtain ⟨digit, rest, hcons⟩ := List.exists_cons_of_ne_nil hne
  have hdigit : digit.isDigit = true := by
    rw [hcons] at hdigits
    exact hdigits digit List.mem_cons_self
  unfold readInteger? decimalText
  rw [String.toList_ofList, hcons, takeSign_signText hdigit, ← hcons]
  dsimp only
  rw [if_pos ⟨hne, List.all_eq_true.mpr hdigits⟩, digitsValue_toDigits]
  unfold Double.signed
  by_cases h : i < 0
  · rw [decide_eq_true h, if_pos rfl]
    exact congrArg some (by omega)
  · rw [decide_eq_false h, if_neg Bool.false_ne_true]
    exact congrArg some (by omega)

/-- The literal of a double denotes the double if it is finite, and zero otherwise. -/
theorem read?_ofDouble {x : Double} (h : x.IsCanonical) :
    read? (ofDouble x).toList = some x.shown := by
  have hzero : read? "0.0".toList = some Double.zero := by decide +kernel
  unfold ofDouble
  rw [String.toList_ofList]
  cases x with
  | nan => exact hzero
  | infinite negative => exact hzero
  | finite negative mantissa exponent => exact read?_write rfl h

/-- The literal of a double has no comma. -/
lemma comma_not_mem_ofDouble (x : Double) : ',' ∉ (ofDouble x).toList := by
  unfold ofDouble
  rw [String.toList_ofList]
  cases x with
  | nan => decide
  | infinite negative =>
    show ',' ∉ "0.0".toList
    decide
  | finite negative mantissa exponent =>
    intro h
    have hplain := isPlain_of_mem_write rfl h
    revert hplain
    unfold IsPlain
    decide

/-! ### Vectors -/

/-- A blank in front of a number is not read. -/
lemma read?_blank_cons (text : List Char) : read? (' ' :: text) = read? text := by
  have htrim : trimBoth isOuterBlank (' ' :: text) = trimBoth isOuterBlank text := rfl
  unfold read?
  rw [htrim]

/-- A blank in front of the first piece does not matter to what is read. -/
lemma mapM_read?_splitOn_blank (text : List Char) :
    (splitOn ',' (' ' :: text)).mapM read? = (splitOn ',' text).mapM read? := by
  obtain ⟨piece, pieces, hsplit⟩ := List.exists_cons_of_ne_nil (splitOn_ne_nil ',' text)
  rw [splitOn, if_neg (by decide), hsplit]
  show List.mapM read? ((' ' :: piece) :: pieces) = _
  rw [List.mapM_cons, List.mapM_cons, read?_blank_cons]

/-- Literals of doubles that are separated by commas are read one by one. -/
lemma mapM_read?_intercalate {first : Double} {rest : List Double}
    (h : ∀ x ∈ first :: rest, x.IsCanonical) :
    (splitOn ',' (", ".intercalate ((first :: rest).map ofDouble)).toList).mapM read? =
      some ((first :: rest).map Double.shown) := by
  have hfirst := read?_ofDouble (h first List.mem_cons_self)
  induction rest generalizing first with
  | nil =>
    rw [List.map_singleton, String.intercalate_singleton,
      splitOn_of_not_mem (comma_not_mem_ofDouble first), List.mapM_cons, hfirst]
    rfl
  | cons second rest ih =>
    have hrest := ih (fun x hx => h x (List.mem_cons_of_mem first hx))
      (read?_ofDouble (h second (List.mem_cons_of_mem first List.mem_cons_self)))
    have htext : (", ".intercalate ((first :: second :: rest).map ofDouble)).toList =
        (ofDouble first).toList ++
          ',' :: ' ' :: (", ".intercalate ((second :: rest).map ofDouble)).toList := by
      rw [List.map_cons, List.map_cons, String.intercalate_cons_cons, String.toList_append,
        String.toList_append, List.append_assoc]
      rfl
    rw [htext, splitOn_append_mark, splitOn_of_not_mem (comma_not_mem_ofDouble first),
      List.singleton_append, List.mapM_cons, hfirst, mapM_read?_splitOn_blank, hrest]
    rfl

/-- A vector is filled up to four components or cut to them. -/
lemma length_fourComponents (components : List Double) :
    (fourComponents components).length = 4 := by
  unfold fourComponents
  rw [List.length_take, List.length_append, List.length_drop]
  show min 4 (components.length + (4 - components.length)) = 4
  omega

/-- The literal of a vector denotes what the literals of its components denote. -/
theorem readVector?_ofComponents {components : List Double} (hne : components ≠ [])
    (h : ∀ x ∈ components, x.IsCanonical) :
    readVector? (ofComponents components).toList =
      some ((fourComponents components).map Double.shown) := by
  have hfour := length_fourComponents components
  have hcanonical : ∀ x ∈ fourComponents components, x.IsCanonical := by
    intro x hx
    rcases List.mem_append.mp (List.mem_of_mem_take hx) with hx | hx
    · exact h x hx
    · have hfill : ∀ y ∈ [Double.zero, Double.zero, Double.zero, Double.one], y.IsCanonical := by
        decide
      exact hfill x (List.mem_of_mem_drop hx)
  have htext : ofComponents components =
      "vec4(" ++ ", ".intercalate ((fourComponents components).map ofDouble) ++ ")" := by
    cases components with
    | nil => exact absurd rfl hne
    | cons first rest => rfl
  rw [htext]
  generalize fourComponents components = lanes at hfour hcanonical
  cases lanes with
  | nil => cases hfour
  | cons first rest =>
    have hclose : ")".toList = [')'] := by decide
    unfold readVector? arguments?
    rw [String.toList_append, String.toList_append, List.append_assoc, after?_eq_some_iff.mpr rfl,
      Option.bind_some, hclose, List.getLast?_concat, if_pos rfl, List.dropLast_concat,
      Option.bind_some, mapM_read?_intercalate hcanonical, Option.bind_some]
    obtain ⟨second, third, fourth, rfl⟩ := List.length_eq_three.mp (Nat.succ.inj hfour)
    rfl

/-- The vector of zeros is read as such. -/
lemma readVector?_zero : readVector? "vec4(0.0)".toList = some (List.replicate 4 Double.zero) := by
  decide +kernel

end Literal

end ShaderLoom
