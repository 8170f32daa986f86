import Mathlib.Algebra.BigOperators.Group.List.Basic
import Mathlib.Data.List.Forall2
import ShaderLoom.Proofs.LiteralForms
import ShaderLoom.Scope

/-!
# The declarations of array constants

An array parameter becomes a constant that holds the numbers of its value in row-major order: the
last place of a number in nested lists changes fastest.  A finite number is written with ten
decimal places, rounded to the nearest such decimal.  A missing value and a number that is not
finite are accepted as well, and written as words that are no literals; so a declaration is well
formed exactly when all numbers of the value are finite.
-/

namespace ShaderLoom

open Decimal

/-! ### Row-major order -/

/-- In lists of one length that are put together, the place of an item is found from its list and
its place there. -/
lemma getElem?_flatMap_of_length {α β : Type} {f : α → List β} {m : ℕ} {items : List α}
    (h : ∀ item ∈ items, (f item).length = m) {i j : ℕ} {item : α} (hitem : items[i]? = some item)
    (hj : j < m) : (items.flatMap f)[i * m + j]? = (f item)[j]? := by
  induction items generalizing i with
  | nil => cases hitem
  | cons first rest ih =>
    have hfirst := h first List.mem_cons_self
    rw [List.flatMap_cons]
    cases i with
    | zero =>
      cases hitem
      rw [Nat.zero_mul, Nat.zero_add, List.getElem?_append_left (by omega)]
    | succ i =>
      have hplace : (i + 1) * m + j - (f first).length = i * m + j := by
        rw [hfirst, Nat.succ_mul]
        omega
      rw [List.getElem?_append_right (by rw [hfirst, Nat.succ_mul]; omega), hplace]
      exact ih (fun other hother => h other (List.mem_cons_of_mem first hother)) hitem

/-- What holds of all items holds of all their counterparts, if it does one by one. -/
lemma forall_mem_iff_of_forall₂ {α β : Type} {R : α → β → Prop} {P : α → Prop} {Q : β → Prop}
    {items : List α} {others : List β} (h : List.Forall₂ R items others)
    (hiff : ∀ item other, R item other → (P item ↔ Q other)) :
    (∀ item ∈ items, P item) ↔ ∀ other ∈ others, Q other := by
  induction h with
  | nil => exact iff_of_true (List.forall_mem_nil P) (List.forall_mem_nil Q)
  | cons hfirst _ ih => rw [List.forall_mem_cons, List.forall_mem_cons, hiff _ _ hfirst, ih]

/-- The place of an entry in row-major order, by its places in the levels of a grid. -/
def rowMajor : List ℕ → List ℕ → ℕ
  | _ :: shape, i :: path => i * shape.prod + rowMajor shape path
  | _, _ => 0

namespace Value

/-- What stands in nested lists at the given places, one for each level. -/
def at? : List ℕ → Value → Option Value
  | [], value => some value
  | i :: path, .list items => items[i]?.bind (at? path)
  | _ :: _, _ => none

lemma leavesOf_eq (items : List Value) : leavesOf items = items.flatMap leaves := by
  induction items with
  | nil => rfl
  | cons item rest ih => rw [leavesOf, ih, List.flatMap_cons]

/-- Items with a common shape all have it. -/
lemma shape?_of_mem {items : List Value} {shape : List ℕ} (h : commonShape? items = some shape)
    {item : Value} (hitem : item ∈ items) : item.shape? = some shape := by
  induction items generalizing shape with
  | nil => cases hitem
  | cons first rest ih =>
    cases rest with
    | nil =>
      rw [List.mem_singleton.mp hitem]
      exact h
    | cons second rest =>
      obtain ⟨common, hfirst, h⟩ := Option.bind_eq_some_iff.mp h
      obtain ⟨others, hothers, h⟩ := Option.bind_eq_some_iff.mp h
      split at h
      · next heq =>
        cases h
        subst heq
        rcases List.mem_cons.mp hitem with rfl | hitem
        · exact hfirst
        · exact ih hothers hitem
      · cases h

/-- A value with levels is a list of items that share the shape of the inner levels. -/
lemma exists_items_of_shape? {value : Value} {size : ℕ} {shape : List ℕ}
    (h : value.shape? = some (size :: shape)) :
    ∃ items, value = .list items ∧ items.length = size ∧ commonShape? items = some shape := by
  cases value with
  | list items =>
    obtain ⟨common, hcommon, heq⟩ := Option.map_eq_some_iff.mp h
    cases heq
    exact ⟨items, rfl, rfl, hcommon⟩
  | _ => cases h

/-- A value of the empty shape is its own leaf. -/
lemma leaves_of_shape?_nil {value : Value} (h : value.shape? = some []) :
    value.leaves = [value] := by
  cases value with
  | list items =>
    obtain ⟨common, -, heq⟩ := Option.map_eq_some_iff.mp h
    cases heq
  | _ => rfl

/-- A grid has as many leaves as its shape says. -/
lemma length_leaves {value : Value} {shape : List ℕ} (h : value.shape? = some shape) :
    value.leaves.length = shape.prod := by
  induction shape generalizing value with
  | nil =>
    rw [leaves_of_shape?_nil h]
    rfl
  | cons size shape ih =>
    obtain ⟨items, rfl, rfl, hcommon⟩ := exists_items_of_shape? h
    have hitems : ∀ item ∈ items, item.leaves.length = shape.prod :=
      fun item hitem => ih (shape?_of_mem hcommon hitem)
    rw [leaves, leavesOf_eq, List.length_flatMap, List.map_congr_left hitems, List.map_const',
      List.sum_replicate_nat, List.prod_cons]

/-- Every place within the shape of a grid holds a leaf, which stands at this place in row-major
order. -/
lemma exists_leaf_at {value : Value} {shape path : List ℕ} (h : value.shape? = some shape)
    (hpath : List.Forall₂ (· < ·) path shape) :
    ∃ leaf, value.at? path = some leaf ∧ value.leaves[rowMajor shape path]? = some leaf := by
  induction hpath generalizing value with
  | nil => exact ⟨value, rfl, by rw [leaves_of_shape?_nil h]; rfl⟩
  | @cons i size path shape hi hrest ih =>
    obtain ⟨items, rfl, rfl, hcommon⟩ := exists_items_of_shape? h
    have hitem : items[i]? = some items[i] := List.getElem?_eq_getElem hi
    have hshape := shape?_of_mem hcommon (List.getElem_mem hi)
    obtain ⟨leaf, hat, hleaf⟩ := ih hshape
    refine ⟨leaf, ?_, ?_⟩
    · rw [at?, hitem]
      exact hat
    · have hinner : rowMajor shape path < shape.prod := by
        rw [← length_leaves hshape]
        exact (List.getElem?_eq_some_iff.mp hleaf).1
      rw [leaves, leavesOf_eq, rowMajor, getElem?_flatMap_of_length
        (fun item hitem => length_leaves (shape?_of_mem hcommon hitem)) hitem hinner]
      exact hleaf

end Value

/-! ### Entries -/

namespace Literal

/-- A float literal with the given number of decimal places. -/
def IsFixed (places : ℕ) (text : List Char) : Prop :=
  ∃ negative whole fraction, text = signText negative ++ (whole ++ '.' :: fraction) ∧
    IsDigits whole ∧ IsDigits fraction ∧ fraction.length = places

/-- The text of an entry with the given number of decimal places: the nearest such decimal, or a
word if the entry is not finite. -/
def WritesEntry (places : ℕ) (text : List Char) : Double → Prop
  | .nan => text = "nan".toList
  | .infinite negative => text = signText negative ++ "inf".toList
  | .finite negative mantissa exponent => ∃ whole fraction,
      text = signText negative ++ (whole ++ '.' :: fraction) ∧ IsDigits whole ∧
        IsDigits fraction ∧ fraction.length = places ∧
        Number.RoundsTo (mantissa * 2 ^ exponent * 10 ^ places) (digitsValue (whole ++ fraction))

/-- Digits with a point among them, before the last `places`. -/
lemma exists_withPoint {places : ℕ} (hplaces : 0 < places) (units : ℕ) :
    ∃ whole fraction, withPoint places units = whole ++ '.' :: fraction ∧ IsDigits whole ∧
      IsDigits fraction ∧ fraction.length = places ∧ digitsValue (whole ++ fraction) = units := by
  unfold withPoint
  dsimp only
  generalize hpadded : List.replicate (places + 1 - (Nat.toDigits 10 units).length) '0' ++
    Nat.toDigits 10 units = padded
  have hlength : places + 1 ≤ padded.length := by
    rw [← hpadded, List.length_append, List.length_replicate]
    omega
  have hdigits : AllDigit padded := by
    rw [← hpadded]
    exact allDigit_append.mpr ⟨allDigit_zeros _, allDigit_toDigits units⟩
  have hvalue : digitsValue padded = units := by
    rw [← hpadded, digitsValue_append, digitsValue_zeros, digitsValue_toDigits, Nat.zero_mul,
      Nat.zero_add]
  have hfraction : (padded.drop (padded.length - places)).length = places := by
    rw [List.length_drop]
    omega
  rw [if_neg hplaces.ne']
  refine ⟨_, _, rfl, ⟨?_, fun c hc => hdigits c (List.mem_of_mem_take hc)⟩,
    ⟨?_, fun c hc => hdigits c (List.mem_of_mem_drop hc)⟩, hfraction, ?_⟩
  · rw [← List.length_pos_iff, List.length_take]
    omega
  · rw [← List.length_pos_iff, hfraction]
    exact hplaces
  · rw [List.take_append_drop, hvalue]

/-- A double with a fixed number of places is a written entry. -/
lemma writesEntry_fixed {places : ℕ} (hplaces : 0 < places) (x : Double) :
    WritesEntry places (Decimal.fixed places x) x := by
  cases x with
  | nan => rfl
  | infinite negative => rfl
  | finite negative mantissa exponent =>
    obtain ⟨whole, fraction, htext, hwhole, hfraction, hlength, hvalue⟩ := exists_withPoint hplaces
      (Number.roundHalfEven (mantissa * Number.twoTo exponent * Number.tenTo places)
        (Number.twoTo (-exponent)))
    refine ⟨whole, fraction, ?_, hwhole, hfraction, hlength, ?_⟩
    · rw [← htext]
      rfl
    · have hrounds := Number.roundsTo_roundHalfEven
        (mantissa * Number.twoTo exponent * Number.tenTo places) (Number.twoTo_pos (-exponent))
      have hscaled : ((mantissa * Number.twoTo exponent * Number.tenTo places : ℕ) : ℚ) /
          Number.twoTo (-exponent) = mantissa * 2 ^ exponent * 10 ^ places := by
        have hten : (Number.tenTo places : ℚ) = 10 ^ places := by
          unfold Number.tenTo
          simp
        rw [← Number.cast_twoTo_div]
        push_cast
        rw [hten]
        ring
      rw [hvalue, ← hscaled]
      exact hrounds

/-- An entry is written as a literal exactly when it is finite. -/
lemma WritesEntry.isFixed_iff {places : ℕ} {text : List Char} {x : Double}
    (h : WritesEntry places text x) : IsFixed places text ↔ x.isFinite = true := by
  -- a literal has a point, and the words have none
  have hpoint : IsFixed places text → '.' ∈ text := by
    rintro ⟨negative, whole, fraction, rfl, -⟩
    simp
  cases x with
  | nan =>
    refine iff_of_false (fun hfixed => ?_) Bool.false_ne_true
    have hmem := hpoint hfixed
    rw [show text = "nan".toList from h] at hmem
    revert hmem
    decide
  | infinite negative =>
    refine iff_of_false (fun hfixed => ?_) Bool.false_ne_true
    have hmem := hpoint hfixed
    rw [show text = signText negative ++ "inf".toList from h] at hmem
    revert hmem
    cases negative <;> decide
  | finite negative mantissa exponent =>
    obtain ⟨whole, fraction, htext, hwhole, hfraction, hlength, -⟩ := h
    exact iff_of_true ⟨negative, whole, fraction, htext, hwhole, hfraction, hlength⟩ rfl

end Literal

/-! ### Declarations -/

/-- A constant that is declared for a value of nested lists: it has as many entries as the value
has leaves, which stand in row-major order, and each entry writes its leaf. -/
structure DeclaresArray (name : String) (value : Value) (places : ℕ) (shape : List ℕ)
    (texts : List (List Char)) (line : String) : Prop where
  hasShape : value.shape? = some shape
  count : texts.length = shape.prod
  count_pos : 0 < shape.prod
  line_eq : line = "const float " ++ name ++ "[" ++ toString shape.prod ++ "] = float["
    ++ toString shape.prod ++ "](" ++ ", ".intercalate (texts.map String.ofList) ++ ");"
  writes : List.Forall₂ (fun leaf text => ∃ x, leaf.gridEntry = .ok x ∧
    Literal.WritesEntry places text x) value.leaves texts
  inOrder : ∀ path, List.Forall₂ (· < ·) path shape →
    ∃ leaf, value.at? path = some leaf ∧ value.leaves[rowMajor shape path]? = some leaf
  literal_iff : (∀ text ∈ texts, Literal.IsFixed places text) ↔
    ∀ leaf ∈ value.leaves, ∀ x, leaf.gridEntry = .ok x → x.isFinite = true

/-- Whether the value is given, and a grid of numbers that has entries. -/
def Value.isArray (value : Value) : Bool :=
  match Literal.arrayEntries value with
  | .ok (some (_ :: _)) => true
  | _ => false

/-- Whether a parameter of the node is an array with entries. -/
def Node.holdsArray (node : Node) (entry : String × Parameter) : Bool :=
  entry.2.type == .array && (node.valueOr entry.1 entry.2).isArray

namespace Literal

/-- Entries come from a grid. -/
lemma toGrid_of_arrayEntries {value : Value} {entries : List Double}
    (h : arrayEntries value = .ok (some entries)) :
    ∃ grid, value.toGrid = .ok grid ∧ grid.entries = entries := by
  unfold arrayEntries at h
  split at h
  · cases h
  · split at h
    · next grid hgrid =>
      cases h
      exact ⟨grid, hgrid, rfl⟩
    · cases h
    · cases h

end Literal

/-- The shape and the entries of a grid are those of the value. -/
lemma Value.of_toGrid {value : Value} {grid : Grid} (h : value.toGrid = .ok grid) :
    value.shape? = some grid.shape ∧ value.leaves.mapM gridEntry = .ok grid.entries := by
  unfold toGrid at h
  split at h
  · cases h
  · next shape hshape =>
    split at h
    · cases h
    · obtain ⟨entries, hentries, h⟩ := bind_eq_ok_iff.mp h
      cases h
      exact ⟨hshape, hentries⟩

/-- A natural number is written in digits. -/
lemma decimalText_ofNat (n : ℕ) : decimalText n = toString n := by
  have hnonneg : decide ((n : ℤ) < 0) = false := decide_eq_false (by omega)
  unfold decimalText
  rw [hnonneg, Int.natAbs_natCast]
  rfl

/-- The declaration of an array lists the entries of the value. -/
lemma Literal.declaresArray {value : Value} {entries : List Double} {places : ℕ}
    (hplaces : 0 < places) (husable : usablePlaces places = .ok places)
    (h : arrayEntries value = .ok (some entries)) (hne : entries ≠ []) {name line : String}
    (hline : arrayDeclaration name entries places = .ok line) :
    DeclaresArray name value places (value.shape?.getD []) (entries.map (Decimal.fixed places))
      line := by
  obtain ⟨grid, hgrid, rfl⟩ := toGrid_of_arrayEntries h
  obtain ⟨hshape, hentries⟩ := Value.of_toGrid hgrid
  rw [hshape, Option.getD_some]
  have hleaves := forall₂_of_mapM_eq_ok hentries
  have hcount : grid.entries.length = grid.shape.prod := by
    rw [← hleaves.length_eq, Value.length_leaves hshape]
  have htexts : grid.entries.mapM (ofEntry places) =
      .ok (grid.entries.map fun x => String.ofList (Decimal.fixed places x)) := by
    refine mapM_eq_ok_map fun x _ => ?_
    unfold ofEntry
    rw [husable]
  have hwrites : List.Forall₂ (fun leaf text => ∃ x, leaf.gridEntry = .ok x ∧
      WritesEntry places text x) value.leaves (grid.entries.map (Decimal.fixed places)) := by
    rw [List.forall₂_map_right_iff]
    exact hleaves.imp fun leaf x hx => ⟨x, hx, writesEntry_fixed hplaces x⟩
  refine ⟨hshape, by rw [List.length_map, hcount], ?_, ?_, hwrites, fun path hpath =>
    Value.exists_leaf_at hshape hpath, ?_⟩
  · rw [← hcount]
    exact List.length_pos_iff.mpr hne
  · unfold arrayDeclaration at hline
    rw [htexts] at hline
    cases hline
    rw [← hcount, List.map_map, ← decimalText_ofNat]
    rfl
  · refine (forall_mem_iff_of_forall₂ hwrites ?_).symm
    rintro leaf text ⟨x, hx, hwritten⟩
    rw [hwritten.isFixed_iff, hx]
    constructor
    · intro h
      exact h x rfl
    · rintro h _ ⟨⟩
      exact h

namespace Scope

/-- The constant of a parameter: its name is that of the node and the parameter, and its entries
are those of the value. -/
def ConstantOf (node : Node) (entry : String × Parameter) (constant : ArrayConstant) : Prop :=
  constant.name = Identifier.arrayConstant node.id entry.1 ∧ constant.entries ≠ [] ∧
    Literal.arrayEntries (node.valueOr entry.1 entry.2) = .ok (some constant.entries)

/-- Unless an entry is too large, the constants are those of the arrays with entries, in order. -/
lemma forall₂_constants_findArrays (node : Node) {entries : List (String × Parameter)}
    (h : entries.any node.refusesArray = false) :
    List.Forall₂ (ConstantOf node) (entries.filter node.holdsArray)
      (findArrays node entries).constants := by
  induction entries with
  | nil => exact .nil
  | cons entry rest ih =>
    obtain ⟨name, parameter⟩ := entry
    rw [List.any_cons, Bool.or_eq_false_iff] at h
    obtain ⟨hfirst, hrest⟩ := h
    specialize ih hrest
    unfold findArrays
    by_cases harray : parameter.type = .array
    · have hlarge : (node.valueOr name parameter).holdsOversized = false := by
        simpa [Node.refusesArray, harray] using hfirst
      have hholds : node.holdsArray (name, parameter) = (node.valueOr name parameter).isArray := by
        simp [Node.holdsArray, harray]
      rw [if_pos harray, List.filter_cons, hholds]
      rcases Literal.arrayEntries_cases (node.valueOr name parameter) with
        ⟨hoversized, -⟩ | ⟨-, result, hresult⟩
      · rw [hlarge] at hoversized
        cases hoversized
      · simp only [Value.isArray, hresult]
        match result with
        | none =>
          rw [if_neg Bool.false_ne_true]
          dsimp only
          split <;> exact ih
        | some [] => exact ih
        | some (first :: others) => exact .cons ⟨rfl, List.cons_ne_nil _ _, hresult⟩ ih
    · have hholds : node.holdsArray (name, parameter) = false := by
        simp [Node.holdsArray, harray]
      rw [if_neg harray, List.filter_cons, hholds]
      exact ih

/-- Unless an entry is too large, every array with entries is declared: its numbers stand in
row-major order, rounded to ten places, and they are literals exactly if they are finite. -/
theorem exists_declaresArray {scope : Scope}
    (hplaces : scope.scene.settings.arrayPlaces = ({} : Settings).arrayPlaces)
    (hrefuses : scope.refusesArrays = false) :
    ∃ lines, scope.arrayDeclarations = .ok lines ∧
      List.Forall₂ (fun entry line => ∃ shape texts,
        DeclaresArray (Identifier.arrayConstant scope.node.id entry.1)
          (scope.node.valueOr entry.1 entry.2) 10 shape texts line)
        (scope.type.parameters.entries.filter scope.node.holdsArray) lines := by
  have hten : scope.scene.settings.arrayPlaces = (10 : ℕ) := hplaces
  have husable : Literal.usablePlaces (10 : ℕ) = .ok 10 := rfl
  choose line hline using fun constant : ArrayConstant =>
    Literal.exists_arrayDeclaration husable constant.name constant.entries
  refine ⟨scope.foundArrays.constants.map line, ?_, ?_⟩
  · unfold arrayDeclarations declareArrays
    rw [arrays_eq_ok hrefuses, ok_bind, hten]
    exact mapM_eq_ok_map fun constant _ => hline constant
  · rw [List.forall₂_map_right_iff]
    refine (forall₂_constants_findArrays scope.node hrefuses).imp ?_
    rintro entry constant ⟨hname, hne, hentries⟩
    rw [← hname]
    exact ⟨_, _, Literal.declaresArray (by decide) husable hentries hne (hline constant)⟩

/-- A node with an array of two rows, in which an entry is missing. -/
def gapped : Scope :=
  let rows : Value := .list [.list [.int 1, .null], .list [.int (-2), .text "3"]]
  let node : Node := ⟨"n", "rows", Table.ofList [("a", rows)], Table.empty⟩
  let type : NodeType :=
    { id := "rows", displayName := "Rows", category := "Logic", inputs := [], outputs := []
      parameters := Table.ofList [("a", ⟨.array, .null, .null, .null, .null, none, none⟩)]
      mainCode := "", functions := none, description := "" }
  { scene :=
      { graph := ⟨[node], []⟩, catalog := ⟨Table.ofList [("rows", type)]⟩, order := ["n"]
        uniforms := Table.empty, renames := Table.empty, settings := {}
        variableNames := Table.empty }
    node, type }

/-- The missing entry is declared as a word, and so the declaration is not well formed. -/
theorem exists_declaresArray_gapped :
    gapped.arrayDeclarations.toOption = some ["const float array_n_a[4] = " ++
      "float[4](1.0000000000, nan, -2.0000000000, 3.0000000000);"] ∧
    ∃ shape texts line, gapped.arrayDeclarations = .ok [line] ∧
      DeclaresArray "array_n_a" (gapped.node.valueOr "a" default) 10 shape texts line ∧
      ¬∀ text ∈ texts, Literal.IsFixed 10 text := by
  refine ⟨by decide +kernel, ?_⟩
  obtain ⟨lines, hlines, hdeclared⟩ := @exists_declaresArray gapped rfl (by decide +kernel)
  have hkept : gapped.type.parameters.entries.filter gapped.node.holdsArray =
      gapped.type.parameters.entries :=
    List.filter_eq_self.mpr (List.all_eq_true.mp (by decide +kernel))
  rw [hkept] at hdeclared
  obtain ⟨line, rest, ⟨shape, texts, hline⟩, hrest, rfl⟩ := List.forall₂_cons_left_iff.mp hdeclared
  cases hrest
  refine ⟨shape, texts, line, hlines, hline, fun hfixed => ?_⟩
  have hmissing : Value.null ∈ (gapped.node.valueOr "a" default).leaves :=
    List.mem_cons_of_mem _ List.mem_cons_self
  cases hline.literal_iff.mp hfixed .null hmissing .nan rfl

end Scope

end ShaderLoom
