import ShaderLoom.Proofs.AllocatedUniforms
import ShaderLoom.Proofs.DenotedLiterals
import ShaderLoom.Proofs.ReadNumbers
import ShaderLoom.Proofs.Refusals
import ShaderLoom.Proofs.UniformNames

/-!
# What uniforms begin with

A parameter reaches the shader as a uniform, which begins with a value that its host sets, or as a
literal.  The two are made from the value of the parameter by different conversions.  For integers
they always agree.  For floats they disagree on numbers that are not finite, and where an integer is
too large there is no literal at all.

For vectors the conversions differ in what they take for a component.  A uniform takes the items of
a list, the characters of a text or the keys of a record, and keeps as many components as it finds;
a literal flattens nested lists, takes a single number for the first component, and always has four.
-/

namespace ShaderLoom

open Decimal

/-! ### Uniform and literal of one value -/

namespace Double

/-- A number is shown as it is exactly when it is finite. -/
lemma shown_eq_self_iff {x : Double} : x.shown = x ↔ x.isFinite = true := by
  unfold shown
  split
  · next h => exact iff_of_true rfl h
  · next h =>
    refine iff_of_false ?_ h
    rintro rfl
    exact h rfl

/-- Lanes are shown as they are exactly when all are finite. -/
lemma map_shown_eq_self_iff {lanes : List Double} :
    lanes.map shown = lanes ↔ ∀ x ∈ lanes, x.isFinite = true := by
  conv_lhs => rhs; rw [← List.map_id lanes]
  rw [List.map_inj_left]
  exact forall₂_congr fun x _ => shown_eq_self_iff

end Double

/-- The lanes of a vector for which no components are known. -/
def zeroLanes : List Double := List.replicate 4 Double.zero

namespace Literal

/-- The lanes that the literal of a vector with the given components denotes. -/
def lanes (components : List Double) : List Double :=
  if components = [] then zeroLanes else (fourComponents components).map Double.shown

/-- The text of components is read as their lanes. -/
lemma readVector?_lanes {components : List Double} (h : ∀ x ∈ components, x.IsCanonical) :
    readVector? (ofComponents components).toList = some (lanes components) := by
  unfold lanes
  split
  · next hnil =>
    subst hnil
    exact readVector?_zero
  · next hne => exact readVector?_ofComponents hne h

/-- Of four components or more, the first four are taken. -/
lemma fourComponents_of_le {components : List Double} (h : 4 ≤ components.length) :
    fourComponents components = components.take 4 := by
  unfold fourComponents
  rw [List.drop_eq_nil_of_le h, List.append_nil]

/-- A vector with fewer than four components is filled up with a final one. -/
lemma one_mem_fourComponents {components : List Double} (h : components.length < 4) :
    Double.one ∈ fourComponents components := by
  have hfill : ∀ n < 4, Double.one ∈
      [Double.zero, Double.zero, Double.zero, Double.one].drop n := by decide
  unfold fourComponents
  rw [List.take_of_length_le]
  · exact List.mem_append_right _ (hfill _ h)
  · rw [List.length_append, List.length_drop]
    show components.length + (4 - components.length) ≤ 4
    omega

/-- Numbers of which a vector literal shows none that is not zero. -/
def ShowsZero (components : List Double) : Prop :=
  components = [] ∨ 4 ≤ components.length ∧ ∀ x ∈ components.take 4, x.shown = Double.zero

/-- The lanes of components are zero exactly when the components show zero. -/
lemma lanes_eq_zeroLanes_iff {components : List Double} :
    lanes components = zeroLanes ↔ ShowsZero components := by
  unfold lanes ShowsZero
  split
  · next hnil => exact iff_of_true rfl (Or.inl hnil)
  · next hne =>
    have hfour : ((fourComponents components).map Double.shown).length = 4 := by
      rw [List.length_map, length_fourComponents]
    unfold zeroLanes
    rw [List.eq_replicate_iff, and_iff_right hfour, List.forall_mem_map, or_iff_right hne]
    by_cases hlength : 4 ≤ components.length
    · rw [fourComponents_of_le hlength, and_iff_right hlength]
    · refine iff_of_false (fun hzero => ?_) fun h => hlength h.1
      have hone := hzero Double.one (one_mem_fourComponents (Nat.lt_of_not_le hlength))
      exact absurd hone (by decide)

/-- The literal of a vector denotes its components if there are four of them, and all are finite. -/
lemma lanes_eq_self_iff {components : List Double} :
    lanes components = components ↔
      components.length = 4 ∧ ∀ x ∈ components, x.isFinite = true := by
  unfold lanes
  split
  · next hnil =>
    subst hnil
    exact iff_of_false nofun nofun
  · constructor
    · intro heq
      have hfour := congrArg List.length heq
      rw [List.length_map, length_fourComponents] at hfour
      rw [fourComponents_of_le hfour.le, List.take_of_length_le hfour.ge] at heq
      exact ⟨hfour.symm, Double.map_shown_eq_self_iff.mp heq⟩
    · rintro ⟨hfour, hfinite⟩
      rw [fourComponents_of_le hfour.ge, List.take_of_length_le hfour.le]
      exact Double.map_shown_eq_self_iff.mpr hfinite

end Literal

namespace Value

/-- The numbers that the uniform of a vector takes for its components. -/
def componentNumbers (value : Value) : Except NumberFault (List Double) :=
  match value.components? with
  | none => .error .notNumeric
  | some components => components.mapM toDouble

/-- The components that the uniform of a vector begins with. -/
def uniformLanes (value : Value) : List Double :=
  match value.componentNumbers with
  | .ok lanes => lanes
  | .error _ => zeroLanes

/-- The numbers that the literal of a vector is made from. -/
def literalNumbers : Value → Except NumberFault (List Double)
  | .null => .ok []
  | value => value.toGrid.map Grid.entries

/-- The numbers of a literal are the entries of the grid that the value makes. -/
lemma literalNumbers_of_ne_null (value : Value) (h : value ≠ .null) :
    value.literalNumbers = value.toGrid.map Grid.entries := by
  cases value with
  | null => exact absurd rfl h
  | _ => rfl

/-- The lanes that the literal of a vector denotes, if it has one. -/
def literalLanes? (value : Value) : Option (List Double) :=
  match value.literalNumbers with
  | .ok components => some (Literal.lanes components)
  | .error .tooLarge => none
  | .error _ => some zeroLanes

/-! ### Values that fit a vector -/

/-- Lists that fit a vector: four finite numbers, or items that are of no use to the uniform and of
which the literal shows only zeros. -/
def ItemsFit (items : List Value) : Prop :=
  match items.mapM toDouble with
  | .ok lanes => lanes.length = 4 ∧ ∀ x ∈ lanes, x.isFinite = true
  | .error _ => (Value.list items).toGrid ≠ .error .tooLarge ∧
    ∀ grid, (Value.list items).toGrid = .ok grid → Literal.ShowsZero grid.entries

/-- Values for which the uniform of a vector begins with what its literal denotes.  Those of use to
an author are the lists of four finite numbers; of any other value both make zeros or the two
differ. -/
def FitsVector : Value → Prop
  | .null => True
  | .bool _ | .int _ | .number _ => False
  | .text s => s ≠ "" ∧ Decimal.read? s.toList = none
  | .list items => ItemsFit items
  | .record entries => ∀ lanes, (Value.record entries).componentNumbers = .ok lanes →
    lanes = zeroLanes

/-- A value that is no list is a grid of one entry. -/
lemma literalNumbers_of_leaf (value : Value) (hne : value ≠ .null)
    (hleaves : value.leaves = [value]) (hshape : value.shape? = some []) :
    value.literalNumbers = value.toDouble.map fun x => [x] := by
  have hentry : value.gridEntry = value.toDouble := by
    cases value with
    | null => exact absurd rfl hne
    | _ => rfl
  rw [literalNumbers_of_ne_null value hne]
  unfold toGrid
  rw [hshape, hleaves]
  dsimp only
  rw [if_neg (by decide), List.mapM_cons, hentry]
  cases value.toDouble with
  | ok x => rfl
  | error cause => rfl

/-- A single number fills the first lane of a literal, and the last lane is one. -/
lemma literalLanes?_of_toDouble {value : Value} {x : Double} (h : value.toDouble = .ok x) :
    value.literalLanes? = some [x.shown, Double.zero, Double.zero, Double.one] := by
  obtain ⟨hleaves, hshape, -⟩ := leaves_of_toDouble h
  have hne : value ≠ .null := by
    rintro rfl
    cases h
  unfold literalLanes?
  rw [literalNumbers_of_leaf value hne hleaves hshape, h]
  rfl

/-- A single number has other lanes than zero, since its alpha is one. -/
lemma literalLanes?_ne_zeroLanes {value : Value} {x : Double} (h : value.toDouble = .ok x) :
    value.literalLanes? ≠ some zeroLanes := by
  rw [literalLanes?_of_toDouble h]
  intro heq
  have hlast : some Double.one = some Double.zero :=
    congrArg (fun lanes : List Double => lanes[3]?) (Option.some.inj heq)
  exact absurd hlast (by decide)

/-- The components of a text are its characters, which are numbers if they are digits. -/
lemma digits_of_componentNumbers {s : String} {lanes : List Double}
    (h : (Value.text s).componentNumbers = .ok lanes) :
    (∀ c ∈ s.toList, IsAnyDigit c) ∧
      lanes = s.toList.map fun c => Decimal.toDouble false (digitsValue [plainDigit c]) 0 := by
  have hmap : (s.toList.map fun c => Value.text (String.singleton c)).mapM toDouble =
      .ok lanes := h
  clear h
  generalize s.toList = chars at hmap
  induction chars generalizing lanes with
  | nil =>
    cases hmap
    exact ⟨nofun, rfl⟩
  | cons c rest ih =>
    rw [List.map_cons, List.mapM_cons] at hmap
    obtain ⟨x, hx, hmap⟩ := bind_eq_ok_iff.mp hmap
    obtain ⟨others, hothers, hmap⟩ := bind_eq_ok_iff.mp hmap
    cases hmap
    obtain ⟨hdigits, rfl⟩ := ih hothers
    have hread : read? [c] = some x := by
      rw [toDouble, numberOfText, String.toList_singleton] at hx
      split at hx
      · next hread =>
        cases hx
        exact hread
      · cases hx
    have hdigit := isAnyDigit_of_read? hread
    have hsingle : ∀ d ∈ [c], IsAnyDigit d := fun d hd => by rwa [List.mem_singleton.mp hd]
    rw [read?_of_digits (List.cons_ne_nil c []) hsingle] at hread
    refine ⟨List.forall_mem_cons.mpr ⟨hdigit, hdigits⟩, ?_⟩
    rw [List.map_cons, ← Option.some.inj hread]
    rfl

/-- Four digits are never the lanes that the number they spell stands for. -/
lemma digits_ne_literal {s : String} {x : Double} (hread : read? s.toList = some x)
    (h : (Value.text s).componentNumbers =
      .ok [x.shown, Double.zero, Double.zero, Double.one]) : False := by
  have hzero : ∀ n < 10, Double.zero = Decimal.toDouble false n 0 → n = 0 := by decide +kernel
  have hone : ∀ n < 10, Double.one = Decimal.toDouble false n 0 → n = 1 := by decide +kernel
  have hfirst : ∀ n < 10, (Decimal.toDouble false (1000 * n + 1) 0).shown ≠
      Decimal.toDouble false n 0 := by decide +kernel
  have hbound : ∀ c, IsAnyDigit c → digitsValue [plainDigit c] < 10 := by
    intro c hc
    have hcode := isDigit_iff.mp hc.2
    show 10 * 0 + ((plainDigit c).toNat - 0x30) < 10
    omega
  obtain ⟨hdigits, hlanes⟩ := digits_of_componentNumbers h
  have hlength := congrArg List.length hlanes
  rw [List.length_map] at hlength
  obtain ⟨a, b, c, d, hchars⟩ := List.length_eq_four.mp hlength.symm
  rw [hchars] at hdigits hlanes hread
  rw [read?_of_digits (List.cons_ne_nil _ _) hdigits] at hread
  have hvalue : digitsValue ([a, b, c, d].map plainDigit) =
      1000 * digitsValue [plainDigit a] + 100 * digitsValue [plainDigit b] +
        10 * digitsValue [plainDigit c] + digitsValue [plainDigit d] := by
    simp only [digitsValue, List.map_cons, List.map_nil, List.foldl_cons, List.foldl_nil]
    ring
  simp only [List.map_cons, List.map_nil, List.cons.injEq, and_true] at hlanes
  obtain ⟨ha, hb, hc, hd⟩ := hlanes
  simp only [List.forall_mem_cons] at hdigits
  obtain ⟨hadigit, hbdigit, hcdigit, hddigit, -⟩ := hdigits
  rw [hvalue, hzero _ (hbound b hbdigit) hb, hzero _ (hbound c hcdigit) hc,
    hone _ (hbound d hddigit) hd] at hread
  refine hfirst _ (hbound a hadigit) ?_
  rw [← ha, ← Option.some.inj hread]

/-- A text is written as the host gets it exactly when it is not empty and no number. -/
lemma literalLanes?_text_iff {s : String} :
    (Value.text s).literalLanes? = some (Value.text s).uniformLanes ↔
      s ≠ "" ∧ read? s.toList = none := by
  cases hread : read? s.toList with
  | none =>
    have hdouble : (Value.text s).toDouble = .error (.unreadable s) := by
      rw [toDouble, numberOfText, hread]
    have hliteral : (Value.text s).literalLanes? = some zeroLanes := by
      unfold literalLanes?
      rw [literalNumbers_of_leaf (.text s) (by simp) rfl rfl, hdouble]
      rfl
    rw [hliteral, Option.some_inj, and_iff_left rfl]
    unfold uniformLanes
    cases hnumbers : (Value.text s).componentNumbers with
    | error cause =>
      refine iff_of_true rfl ?_
      rintro rfl
      cases hnumbers
    | ok lanes =>
      -- characters that are all numbers are digits, and a text of digits can be read
      obtain ⟨hdigits, hlanes⟩ := digits_of_componentNumbers hnumbers
      have hnil : s.toList = [] := by
        by_contra hne
        rw [read?_of_digits hne hdigits] at hread
        cases hread
      rw [hnil] at hlanes
      subst hlanes
      exact iff_of_false (List.cons_ne_nil _ _) fun hne => hne (String.toList_eq_nil_iff.mp hnil)
  | some x =>
    have hdouble : (Value.text s).toDouble = .ok x := by
      rw [toDouble, numberOfText, hread]
    refine iff_of_false ?_ fun h => Option.some_ne_none x h.2
    unfold uniformLanes
    cases hnumbers : (Value.text s).componentNumbers with
    | error cause => exact literalLanes?_ne_zeroLanes hdouble
    | ok lanes =>
      rw [literalLanes?_of_toDouble hdouble]
      intro heq
      have hlanes : [x.shown, Double.zero, Double.zero, Double.one] = lanes := Option.some.inj heq
      rw [← hlanes] at hnumbers
      exact digits_ne_literal hread hnumbers

/-- A list is written as the host gets it exactly when its items fit. -/
lemma literalLanes?_list_iff {items : List Value} :
    (Value.list items).literalLanes? = some (Value.list items).uniformLanes ↔
      ItemsFit items := by
  have hcomponents : (Value.list items).componentNumbers = items.mapM toDouble := rfl
  unfold literalLanes? uniformLanes ItemsFit
  rw [literalNumbers_of_ne_null (.list items) (by simp), hcomponents]
  cases hnumbers : items.mapM toDouble with
  | ok lanes =>
    rw [toGrid_of_mapM hnumbers]
    show some (Literal.lanes lanes) = some lanes ↔ _
    rw [Option.some_inj, Literal.lanes_eq_self_iff]
  | error cause =>
    dsimp only
    cases hgrid : (Value.list items).toGrid with
    | ok grid =>
      show some (Literal.lanes grid.entries) = some zeroLanes ↔ _
      rw [Option.some_inj, Literal.lanes_eq_zeroLanes_iff]
      refine ⟨fun h => ⟨nofun, fun found hfound => ?_⟩, fun h => h.2 grid rfl⟩
      cases hfound
      exact h
    | error cause =>
      cases cause with
      | tooLarge => exact iff_of_false nofun fun h => h.1 rfl
      | _ => exact iff_of_true rfl ⟨nofun, nofun⟩

/-- Values with the same lanes in the uniform and in the literal are those that fit. -/
theorem literalLanes?_eq_iff {value : Value} :
    value.literalLanes? = some value.uniformLanes ↔ value.FitsVector := by
  cases value with
  | null => exact iff_of_true rfl trivial
  | bool b => exact iff_of_false (literalLanes?_ne_zeroLanes rfl) id
  | number x => exact iff_of_false (literalLanes?_ne_zeroLanes rfl) id
  | int i =>
    refine iff_of_false ?_ id
    cases hdouble : (Value.int i).toDouble with
    | ok x => exact literalLanes?_ne_zeroLanes hdouble
    | error cause =>
      have hlarge : cause = .tooLarge := by
        rw [toDouble] at hdouble
        split at hdouble
        · cases hdouble
        · exact (Except.error.inj hdouble).symm
      unfold literalLanes?
      rw [literalNumbers_of_leaf (.int i) (by simp) rfl rfl, hdouble, hlarge]
      exact (Option.some_ne_none _).symm
  | text s => exact literalLanes?_text_iff
  | list items => exact literalLanes?_list_iff
  | record entries =>
    have hliteral : (Value.record entries).literalLanes? = some zeroLanes := by
      unfold literalLanes?
      rw [literalNumbers_of_leaf (.record entries) (by simp) rfl rfl]
      rfl
    rw [hliteral, Option.some_inj, eq_comm]
    show _ ↔ ∀ lanes, (Value.record entries).componentNumbers = .ok lanes → lanes = zeroLanes
    unfold uniformLanes
    cases (Value.record entries).componentNumbers with
    | ok lanes =>
      refine ⟨fun h found hfound => ?_, fun h => h lanes rfl⟩
      cases hfound
      exact h
    | error cause => exact iff_of_true rfl (by simp)

/-- The number of components of a value. -/
def componentCount : Value → ℕ
  | .list items => items.length
  | _ => 1

end Value

/-- The number of components of a type in shader code. -/
def ParameterType.laneCount : ParameterType → ℕ
  | .vec4 => 4
  | _ => 1

namespace Uniform

/-- What the uniform of a parameter with the given value begins with. -/
def startOf (value : Value) (type : ParameterType) : Value :=
  match initial? value type with
  | .ok start => start
  | .error _ => type.zero

/-- The initial value of a uniform is the settled value of the parameter, as its type has it. -/
lemma initial_eq_startOf (node : Node) (name : String) (parameter : Parameter) :
    initial node name parameter = startOf (node.settledValue name parameter) parameter.type := rfl

/-- The literal of a value exists and denotes what the uniform begins with. -/
def Agrees (value : Value) (type : ParameterType) : Prop :=
  ∃ text, Literal.ofParameter value type = .ok text ∧
    Literal.denoted? text type = some (startOf value type)

/-- As an integer, a value has the same meaning either way. -/
lemma agrees_int (value : Value) : Agrees value .int := by
  refine ⟨_, rfl, ?_⟩
  unfold Literal.integerOfValue startOf initial?
  dsimp only [Literal.denoted?]
  cases hinteger : value.toInteger with
  | ok i =>
    dsimp only
    rw [Value.writtenInt_of_toInteger hinteger]
    show (Literal.readInteger? (decimalText i).toList).map _ = _
    rw [Literal.readInteger?_decimalText]
    rfl
  | error cause =>
    have hzero : Literal.readInteger? "0".toList = some 0 := by decide
    rw [hzero]
    rfl

/-- As a float, a value has the same meaning either way unless it is an integer that is too large,
or not finite. -/
lemma agrees_float_iff {value : Value} (hproper : value.IsProper) :
    Agrees value .float ↔
      value.isOversized = false ∧ ∀ x, value.toDouble = .ok x → x.isFinite = true := by
  rw [← Bool.not_eq_true, ← Value.toDouble_eq_tooLarge_iff]
  have hliteral : Literal.ofParameter value .float =
      Literal.orElse "0.0" (value.toDouble >>= fun x => .ok (Literal.ofDouble x)) := rfl
  have hstart : startOf value .float =
      ((value.toDouble >>= fun x => .ok (.number x)).toOption).getD (.number Double.zero) := by
    unfold startOf initial?
    cases value.toDouble with
    | ok x => rfl
    | error cause => rfl
  unfold Agrees
  rw [hliteral, hstart]
  cases hdouble : value.toDouble with
  | ok x =>
    have hcanonical : x.IsCanonical := by
      refine Value.isCanonical_of_toDouble (fun y hy => hproper y ?_) hdouble
      rw [(Value.leaves_of_toDouble hdouble).1, hy]
      exact List.mem_singleton_self _
    have hread : Literal.denoted? (Literal.ofDouble x) .float = some (.number x.shown) :=
      congrArg (Option.map Value.number) (Literal.read?_ofDouble hcanonical)
    constructor
    · rintro ⟨text, htext, hdenoted⟩
      cases htext
      rw [hread] at hdenoted
      refine ⟨nofun, fun y hy => ?_⟩
      cases hy
      exact Double.shown_eq_self_iff.mp (Value.number.inj (Option.some.inj hdenoted))
    · rintro ⟨-, hfinite⟩
      refine ⟨_, rfl, ?_⟩
      rw [hread, Double.shown_eq_self_iff.mpr (hfinite x rfl)]
      rfl
  | error cause =>
    have hread : Literal.denoted? "0.0" .float = some (.number Double.zero) :=
      congrArg (Option.map Value.number) (by decide +kernel : read? "0.0".toList = some Double.zero)
    by_cases hlarge : cause = .tooLarge
    · subst hlarge
      refine iff_of_false ?_ fun h => h.1 rfl
      rintro ⟨text, htext, -⟩
      cases htext
    · refine iff_of_true ⟨"0.0", ?_, hread⟩ ⟨fun h => hlarge (Except.error.inj h), nofun⟩
      cases cause with
      | tooLarge => exact absurd rfl hlarge
      | _ => rfl

/-- A vector starts with the lanes of its value. -/
lemma startOf_vec4 (value : Value) :
    startOf value .vec4 = .list (value.uniformLanes.map .number) := by
  unfold startOf initial? Value.uniformLanes Value.componentNumbers
  dsimp only
  cases value.components? with
  | none => rfl
  | some components =>
    dsimp only
    cases components.mapM Value.toDouble with
    | ok lanes => rfl
    | error cause => rfl

/-- The literal of a vector denotes the lanes of the value, and is refused if there are none. -/
lemma ofParameter_vec4_cases {value : Value} (hproper : value.IsProper) :
    (value.literalLanes? = none ∧ Literal.ofParameter value .vec4 = .error .tooLarge) ∨
      ∃ text lanes, value.literalLanes? = some lanes ∧
        Literal.ofParameter value .vec4 = .ok text ∧
        Literal.readVector? text.toList = some lanes := by
  have hliteral : Literal.ofParameter value .vec4 = Literal.orElse "vec4(0.0)"
      (value.literalNumbers.map Literal.ofComponents) := by
    unfold Literal.ofParameter Literal.vectorOfValue
    dsimp only
    split
    · rfl
    · next hne =>
      rw [Value.literalNumbers_of_ne_null value hne]
      cases value.toGrid with
      | ok grid => rfl
      | error cause => rfl
  have hcanonical : ∀ components, value.literalNumbers = .ok components →
      ∀ x ∈ components, x.IsCanonical := by
    intro components hnumbers
    unfold Value.literalNumbers at hnumbers
    split at hnumbers
    · cases hnumbers
      exact fun x hx => absurd hx List.not_mem_nil
    · cases hgrid : value.toGrid with
      | error cause =>
        rw [hgrid] at hnumbers
        cases hnumbers
      | ok grid =>
        rw [hgrid] at hnumbers
        cases hnumbers
        exact Value.isCanonical_of_toGrid hproper hgrid
  unfold Value.literalLanes?
  rw [hliteral]
  cases hnumbers : value.literalNumbers with
  | ok components =>
    exact Or.inr ⟨_, _, rfl, rfl, Literal.readVector?_lanes (hcanonical components hnumbers)⟩
  | error cause =>
    cases cause with
    | tooLarge => exact Or.inl ⟨rfl, rfl⟩
    | _ => exact Or.inr ⟨_, _, rfl, rfl, Literal.readVector?_zero⟩

/-- As a vector, a value has the same meaning either way if the lanes are the same. -/
lemma agrees_vec4_iff_lanes {value : Value} (hproper : value.IsProper) :
    Agrees value .vec4 ↔ value.literalLanes? = some value.uniformLanes := by
  have hinjective : Function.Injective fun lanes : List Double => Value.list (lanes.map .number) :=
    fun a b h => List.map_injective_iff.mpr (fun x y => Value.number.inj) (Value.list.inj h)
  unfold Agrees
  rw [startOf_vec4]
  rcases ofParameter_vec4_cases hproper with ⟨hlanes, htext⟩ | ⟨text, lanes, hlanes, htext, hread⟩
  · rw [hlanes, htext]
    exact iff_of_false (fun h => nomatch h) nofun
  · have hdenoted : Literal.denoted? text .vec4 = some (.list (lanes.map .number)) := by
      unfold Literal.denoted?
      dsimp only
      rw [hread]
      rfl
    rw [hlanes, htext, Option.some_inj]
    constructor
    · rintro ⟨_, htext, h⟩
      cases htext
      rw [hdenoted] at h
      exact hinjective (Option.some.inj h)
    · rintro rfl
      exact ⟨text, rfl, hdenoted⟩

/-- As a vector, a value has the same meaning either way if it fits. -/
lemma agrees_vec4_iff {value : Value} (hproper : value.IsProper) :
    Agrees value .vec4 ↔ value.FitsVector :=
  (agrees_vec4_iff_lanes hproper).trans Value.literalLanes?_eq_iff

/-- A uniform begins with as many components as its type has, unless the value of a vector has
another number of components. -/
lemma componentCount_startOf_iff (value : Value) (type : ParameterType) :
    (startOf value type).componentCount = type.laneCount ↔
      (type = .vec4 → ∀ lanes, value.componentNumbers = .ok lanes → lanes.length = 4) := by
  cases type with
  | vec4 =>
    rw [startOf_vec4, Value.componentCount, List.length_map, ParameterType.laneCount]
    unfold Value.uniformLanes
    cases value.componentNumbers with
    | ok lanes =>
      refine ⟨fun h _ found hfound => ?_, fun h => h rfl lanes rfl⟩
      cases hfound
      exact h
    | error cause => exact iff_of_true rfl nofun
  | int =>
    refine iff_of_true ?_ nofun
    unfold startOf initial?
    cases value.toInteger with
    | ok i => rfl
    | error cause => rfl
  | float | string | array =>
    refine iff_of_true ?_ nofun
    unfold startOf initial?
    cases value.toDouble with
    | ok x => rfl
    | error cause => rfl

end Uniform

/-! ### Records -/

/-- The literal of a parameter exists and denotes the given value. -/
def Scope.Inlines (scope : Scope) (name : String) (parameter : Parameter) (value : Value) : Prop :=
  ∃ text, scope.literal name parameter = .ok text ∧
    Literal.denoted? text parameter.type = some value

namespace Uniform

/-- A literal shows the initial value exactly when the value agrees with the type. -/
lemma inlines_initial_iff (scope : Scope) (name : String) (parameter : Parameter) :
    scope.Inlines name parameter (initial scope.node name parameter) ↔
      Agrees (scope.node.settledValue name parameter) parameter.type := by
  rw [initial_eq_startOf]
  unfold Scope.Inlines Scope.literal Agrees
  cases Literal.ofParameter (scope.node.settledValue name parameter) parameter.type with
  | ok text => exact exists_congr fun found => and_congr_left fun _ =>
      ⟨fun h => congrArg _ (Except.ok.inj h), fun h => congrArg _ (Except.ok.inj h)⟩
  | error cause =>
    refine iff_of_false ?_ ?_
    · rintro ⟨found, h, -⟩
      cases h
    · rintro ⟨found, h, -⟩
      cases h

/-- How the value that a uniform begins with compares with the literal of the parameter, by the type
of the parameter. -/
structure Compared (scope : Scope) (name : String) (parameter : Parameter) (start : Value) :
    Prop where
  count : start.componentCount = parameter.type.laneCount ↔ (parameter.type = .vec4 →
    ∀ lanes, (scope.node.settledValue name parameter).componentNumbers = .ok lanes →
      lanes.length = 4)
  int : parameter.type = .int → scope.Inlines name parameter start
  float : parameter.type = .float → (scope.node.settledValue name parameter).IsProper →
    (scope.Inlines name parameter start ↔
      (scope.node.settledValue name parameter).isOversized = false ∧
        ∀ x, (scope.node.settledValue name parameter).toDouble = .ok x → x.isFinite = true)
  vec4 : parameter.type = .vec4 → (scope.node.settledValue name parameter).IsProper →
    (scope.Inlines name parameter start ↔ (scope.node.settledValue name parameter).FitsVector)

lemma compared_initial (scope : Scope) (name : String) (parameter : Parameter) :
    Compared scope name parameter (initial scope.node name parameter) where
  count := componentCount_startOf_iff _ _
  int htype := by
    rw [inlines_initial_iff, htype]
    exact agrees_int _
  float htype hproper := by
    rw [inlines_initial_iff, htype]
    exact agrees_float_iff hproper
  vec4 htype hproper := by
    rw [inlines_initial_iff, htype]
    exact agrees_vec4_iff hproper

/-- A record is about a parameter of a node. -/
structure Record.Describes (record : Record) (graph : Graph) (catalog : Catalog) (node : Node)
    (parameter : Parameter) : Prop where
  mem_nodes : node ∈ graph.nodes
  declared : ∃ type, catalog.find? node.type = some type ∧
    (record.parameter, parameter) ∈ type.parameters.entries
  node_eq : record.node = node.id
  type_eq : record.type = parameter.type.uniformKeyword
  initial_eq : record.initial = Uniform.initial node record.parameter parameter

/-- The record of a uniform that is no audio output describes a parameter. -/
lemma exists_describes_of_mem_records {graph : Graph} {catalog : Catalog} {table : Table String}
    {used : Option (List String)} {settings : Settings} {found : List Record}
    (h : records graph catalog table used settings = .ok found) {record : Record}
    (hrecord : record ∈ found) (haudio : record.isAudio = false) :
    ∃ node parameter, record.Describes graph catalog node parameter := by
  obtain ⟨node, hnode, type, htype, ⟨outputs, port, u, -, -, -, rfl⟩ |
    ⟨name, parameter, u, hentry, -, -, -, rfl⟩⟩ := cases_of_mem_records h hrecord
  · cases haudio
  · exact ⟨node, parameter, hnode, ⟨type, htype, hentry⟩, rfl, rfl, rfl⟩

/-- Whatever is recorded of the uniform of a parameter is compared with the literal that would stand
in its place: integers agree always, floats unless they are not finite or too large, and vectors
exactly if the value fits, which a list of two numbers does not. -/
theorem compared_of_mem_records {graph : Graph} {catalog : Catalog} {table : Table String}
    {used : Option (List String)} {settings : Settings} {found : List Record}
    (h : records graph catalog table used settings = .ok found) {record : Record}
    (hrecord : record ∈ found) (haudio : record.isAudio = false) :
    ∃ node parameter, record.Describes graph catalog node parameter ∧
      ∀ scope : Scope, scope.node = node →
        Compared scope record.parameter parameter record.initial := by
  obtain ⟨node, parameter, hdescribes⟩ := exists_describes_of_mem_records h hrecord haudio
  refine ⟨node, parameter, hdescribes, ?_⟩
  rintro scope rfl
  rw [hdescribes.initial_eq]
  exact compared_initial scope record.parameter parameter

/-- A type whose only parameter is a vector. -/
def solidColor : NodeType where
  id := "solid"
  displayName := "Solid"
  category := "Color"
  inputs := []
  outputs := [⟨"out", .vec4, none⟩]
  parameters := ⟨[("color", ⟨.vec4, .null, .null, .null, .null, none, none⟩)]⟩
  mainCode := "$output.out = $param.color;"
  functions := none
  description := ""

/-- The catalog of this type only. -/
def solidColors : Catalog := ⟨⟨[("solid", solidColor)]⟩⟩

/-- A color of which only two components are given, one and a half. -/
def shortColor : Value := .list [.number Double.one, .number (Decimal.toDouble false 5 (-1))]

/-- A node of that type with that color. -/
def shortlyColored : Graph where
  nodes := [⟨"a", "solid", ⟨[("color", shortColor)]⟩, Table.empty⟩]
  wires := []

/-- What is recorded of the color of the node. -/
def shortColorRecord : Record := ⟨"uaColor", "a", "color", "vec4", shortColor, false⟩

/-- The uniform begins with the two components, which no literal denotes. -/
theorem compared_of_mem_records_shortlyColored :
    ∃ table, allocate shortlyColored solidColors {} = .ok table ∧
      records shortlyColored solidColors table none {} = .ok [shortColorRecord] ∧
      shortColorRecord.initial.componentCount ≠ ParameterType.vec4.laneCount ∧
      ∃ node parameter, shortColorRecord.Describes shortlyColored solidColors node parameter ∧
        ∀ scope : Scope, scope.node = node →
          ¬ scope.Inlines shortColorRecord.parameter parameter shortColorRecord.initial := by
  have htable : allocate shortlyColored solidColors {} = .ok ⟨[("a.color", "uaColor")]⟩ := by
    rfl
  have hrecords : records shortlyColored solidColors ⟨[("a.color", "uaColor")]⟩ none {} =
      .ok [shortColorRecord] := by rfl
  have hproper : shortColor.IsProper := by
    intro x hx
    have hx : Value.number x ∈
        [.number Double.one, .number (Decimal.toDouble false 5 (-1))] := hx
    rcases List.mem_pair.mp hx with hx | hx
    · rw [Value.number.inj hx]
      decide
    · rw [Value.number.inj hx]
      exact Decimal.isCanonical_toDouble _ _ _
  have hshort : ¬ shortColor.FitsVector := by
    rintro ⟨hfour, -⟩
    exact absurd hfour (by decide)
  refine ⟨_, htable, hrecords, by decide, ?_⟩
  obtain ⟨node, parameter, hdescribes, hcompared⟩ :=
    compared_of_mem_records hrecords List.mem_cons_self rfl
  refine ⟨node, parameter, hdescribes, ?_⟩
  rintro scope rfl hinlines
  have hnode := List.mem_singleton.mp hdescribes.mem_nodes
  have hvalue : scope.node.settledValue "color" parameter = shortColor := by
    rw [hnode]
    rfl
  have htype : parameter.type = .vec4 := by
    obtain ⟨type, htype, hentry⟩ := hdescribes.declared
    rw [hnode] at htype
    have hsolid : solidColor = type := Option.some.inj htype
    subst hsolid
    exact congrArg (fun entry : String × Parameter => entry.2.type) (List.mem_singleton.mp hentry)
  have hfits := ((hcompared scope rfl).vec4 htype (hvalue.symm ▸ hproper)).mp hinlines
  exact hshort (hvalue ▸ hfits)

end Uniform

end ShaderLoom
