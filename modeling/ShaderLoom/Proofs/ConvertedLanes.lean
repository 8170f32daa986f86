import ShaderLoom.Conversion
import ShaderLoom.Proofs.LaneValues

/-!
# What conversions mean

A conversion is made on texts, but it can be understood on values: the text of an expression becomes
the text of an expression of the other type, whose value is the converted value.  This holds however
deep the expression is nested, since lanes are selected from a name or from parentheses.  The
conversions for parameters and for the final color are written differently and mean the same.
-/

namespace ShaderLoom

open Conversion Expression

section Meaning

variable {W S : Type} (A : Arithmetic W S) (types : VariableName → Option PortType)
  (env : VariableName → List (Lane W S))

/-- The text spells an expression of the type, which has the given value. -/
def Spells (text : String) (type : PortType) (lanes : List (Lane W S)) : Prop :=
  ∃ e : Expression, e.text = text.toList ∧ read? text.toList = some e ∧ e.type? types = some type ∧
    e.eval A env = lanes

/-- The text spells arguments of the types, which have the given lanes. -/
def SpellsArgs (text : String) (given : List PortType) (lanes : List (Lane W S)) : Prop :=
  ∃ args : List Expression, args ≠ [] ∧ textOf args = text.toList ∧
    typesOf? types args = some given ∧ evalAll A env args = lanes

variable {A types env}

/-- The text of a typed expression spells its value. -/
lemma spells_of_type? {e : Expression} {type : PortType} (h : e.type? types = some type)
    {text : String} (htext : e.text = text.toList) : Spells A types env text type (e.eval A env) :=
  ⟨e, htext, htext ▸ read?_text h, h, rfl⟩

/-- A value that is spelled fits its type. -/
lemma Spells.fits (henv : Respects types env) {text : String} {type : PortType}
    {lanes : List (Lane W S)} (h : Spells A types env text type lanes) : type.Fits lanes := by
  obtain ⟨e, -, -, htype, rfl⟩ := h
  exact fits_eval A henv htype

/-! ### Texts that are put together -/

/-- A float literal spells its number. -/
lemma spells_float (literal : FloatLiteral) {text : String} (htext : literal.text = text.toList) :
    Spells A types env text .float [.scalar (A.float literal)] :=
  spells_of_type? (e := .float literal) rfl htext

/-- An expression spells a single argument. -/
lemma Spells.single {text : String} {type : PortType} {lanes : List (Lane W S)}
    (h : Spells A types env text type lanes) : SpellsArgs A types env text [type] lanes := by
  obtain ⟨e, htext, -, htype, rfl⟩ := h
  refine ⟨[e], List.cons_ne_nil _ _, htext, ?_, ?_⟩
  · simp [typesOf?, htype]
  · simp [evalAll]

/-- An argument is spelled before others with a comma between them. -/
lemma Spells.followed {text rest : String} {type : PortType} {given : List PortType}
    {lanes others : List (Lane W S)} (h : Spells A types env text type lanes)
    (hrest : SpellsArgs A types env rest given others) :
    SpellsArgs A types env (text ++ ", " ++ rest) (type :: given) (lanes ++ others) := by
  obtain ⟨e, htext, -, htype, rfl⟩ := h
  obtain ⟨args, hne, hargs, hgiven, rfl⟩ := hrest
  refine ⟨e :: args, List.cons_ne_nil _ _, ?_, ?_, ?_⟩
  · obtain ⟨next, others, rfl⟩ := List.exists_cons_of_ne_nil hne
    rw [textOf_cons_cons, htext, hargs]
    simp
  · simp [typesOf?, htype, hgiven]
  · simp [evalAll]

/-- Arguments that a type accepts are spelled in its constructor. -/
lemma SpellsArgs.construct {text : String} {given : List PortType} {lanes : List (Lane W S)}
    (h : SpellsArgs A types env text given lanes) {type : PortType}
    (haccepts : type.accepts given = true) {start : String}
    (hstart : start = type.keyword ++ "(") :
    Spells A types env (start ++ text ++ ")") type (A.construct type lanes) := by
  obtain ⟨args, -, htext, hgiven, rfl⟩ := h
  have htype : (Expression.construct type args).type? types = some type := by
    simp [type?, hgiven, haccepts]
  have htext : (Expression.construct type args).text = (start ++ text ++ ")").toList := by
    rw [Expression.text, htext, hstart]
    simp
  have hspells : Spells A types env (start ++ text ++ ")") type
      ((Expression.construct type args).eval A env) := spells_of_type? htype htext
  rwa [eval] at hspells

/-- Behind a character that is not in the class, only the end of the text could follow. -/
lemma allUpToNewline_eq_false {p : Char → Bool} {c : Char} (hc : p c = false)
    (before : List Char) {after : List Char} (hafter : after ≠ []) :
    allUpToNewline p (before ++ c :: after) = false := by
  obtain ⟨next, after, rfl⟩ := List.exists_cons_of_ne_nil hafter
  induction before with
  | nil => simp [allUpToNewline, hc]
  | cons d before ih =>
    obtain ⟨first, rest, hrest⟩ : ∃ first rest, before ++ c :: next :: after = first :: rest :=
      List.exists_cons_of_ne_nil (by simp)
    rw [List.cons_append, hrest, allUpToNewline, ← hrest, ih, Bool.and_false]
    simp

/-- Nothing with an operator is taken for a bare name. -/
lemma isOperand_of_isBareName {p : Char → Bool} (hp : p ' ' = false) {text : String}
    {e : Expression} (htext : e.text = text.toList) (h : isBareName p text = true) :
    e.isOperand = true := by
  cases e with
  | combine left op right =>
    unfold isBareName at h
    rw [← htext, Expression.text] at h
    cases hleft : left.text with
    | nil =>
      rw [hleft] at h
      cases h
    | cons c before =>
      rw [hleft] at h
      simp [allUpToNewline_eq_false hp] at h
  | _ => rfl

/-- Lanes are selected from a bare name, or from anything else in parentheses. -/
lemma Spells.selectFrom {p : Char → Bool} (hp : p ' ' = false) {text : String} {type : PortType}
    {lanes : List (Lane W S)} (h : Spells A types env text type lanes) (selection : Selection)
    (hoffers : type.offers selection = true) {target : PortType}
    (htarget : PortType.ofLaneCount? selection.lanes.length = some target) {suffix : String}
    (hsuffix : suffix.toList = '.' :: selection.text) :
    Spells A types env ((if isBareName p text then text else "(" ++ text ++ ")") ++ suffix) target
      (selection.lanes.filterMap fun lane => lanes[lane.val]?) := by
  obtain ⟨e, htext, -, htype, rfl⟩ := h
  -- lanes are selected from the expression itself or from the expression in parentheses
  have hspells : ∀ (base : Expression) (start : String), base.isOperand = true →
      base.type? types = some type → base.eval A env = e.eval A env → base.text = start.toList →
      Spells A types env (start ++ suffix) target
        (selection.lanes.filterMap fun lane => (e.eval A env)[lane.val]?) := by
    intro base start hoperand hbase heval hbasetext
    have hselect : (Expression.select base selection).type? types = some target := by
      simp [type?, hbase, hoperand, hoffers, htarget]
    have hselected : (Expression.select base selection).text = (start ++ suffix).toList := by
      rw [Expression.text, hbasetext, String.toList_append, hsuffix]
    have hvalue : (Expression.select base selection).eval A env =
        selection.lanes.filterMap fun lane => (e.eval A env)[lane.val]? := by
      rw [eval, heval]
    exact hvalue ▸ spells_of_type? hselect hselected
  by_cases hbare : isBareName p text = true
  · rw [if_pos hbare]
    exact hspells e text (isOperand_of_isBareName hp htext hbare) htype rfl htext
  · rw [if_neg hbare]
    refine hspells (.group e) _ rfl htype rfl ?_
    rw [Expression.text, htext]
    simp

/-- Lanes are selected from what a text spells. -/
lemma Spells.select {text : String} {type : PortType} {lanes : List (Lane W S)}
    (h : Spells A types env text type lanes) (selection : Selection)
    (hoffers : type.offers selection = true) {target : PortType}
    (htarget : PortType.ofLaneCount? selection.lanes.length = some target) {suffix : String}
    (hsuffix : suffix.toList = '.' :: selection.text) :
    Spells A types env (operand text ++ suffix) target
      (selection.lanes.filterMap fun lane => lanes[lane.val]?) :=
  h.selectFrom (by decide) selection hoffers htarget hsuffix

/-! ### Conversions -/

variable {text : String}

/-- A value of a type of floats has scalars for lanes. -/
lemma exists_scalars (A : Arithmetic W S) {type : PortType} {lanes : List (Lane W S)}
    (h : type.Fits lanes) (hkind : type.laneKind = .float) :
    ∃ xs : List S, lanes = xs.map .scalar ∧ xs.length = type.laneCount := by
  have hscalars : A.toLane type = Lane.scalar ∘ A.scalarOf := by
    funext lane
    unfold Arithmetic.toLane
    rw [hkind]
    rfl
  refine ⟨lanes.map A.scalarOf, ?_, by rw [List.length_map, h.1]⟩
  rw [List.map_map, ← hscalars, A.map_toLane_of_fits h]

/-- A whole number is spelled as a float. -/
lemma Spells.toFloat {w : W} (h : Spells A types env text .int [.whole w]) :
    Spells A types env ("float(" ++ text ++ ")") .float [.scalar (A.toScalar w)] :=
  h.single.construct rfl rfl

/-- A float is spelled as a whole number. -/
lemma Spells.toInt {x : S} (h : Spells A types env text .float [.scalar x]) :
    Spells A types env ("int(" ++ text ++ ")") .int [.whole (A.toWhole x)] :=
  h.single.construct rfl rfl

lemma spells_zero : Spells A types env "0.0" .float [.scalar (A.float .zero)] :=
  spells_float .zero rfl

lemma spells_one : Spells A types env "1.0" .float [.scalar (A.float .one)] :=
  spells_float .one rfl

/-- A float is spelled in all lanes of the color of a vector, with an alpha of one. -/
lemma Spells.replicate {x : S} (h : Spells A types env text .float [.scalar x]) {target : PortType}
    (htarget : target.isVector = true) :
    Spells A types env (Conversion.replicate text target) target
      (A.converted .float target [.scalar x]) := by
  cases target with
  | vec2 =>
    have htext : Conversion.replicate text .vec2 = "vec2(" ++ (text ++ ", " ++ text) ++ ")" := by
      simp [Conversion.replicate, String.append_assoc]
    rw [htext]
    exact (h.followed h.single).construct rfl rfl
  | vec3 =>
    have htext : Conversion.replicate text .vec3 =
        "vec3(" ++ (text ++ ", " ++ (text ++ ", " ++ text)) ++ ")" := by
      simp [Conversion.replicate, String.append_assoc]
    rw [htext]
    exact (h.followed (h.followed h.single)).construct rfl rfl
  | vec4 =>
    have htext : Conversion.replicate text .vec4 =
        "vec4(" ++ (text ++ ", " ++ (text ++ ", " ++ (text ++ ", " ++ "1.0"))) ++ ")" := by
      simp [Conversion.replicate, String.append_assoc]
    rw [htext]
    exact (h.followed (h.followed (h.followed spells_one.single))).construct rfl rfl
  | _ => cases htarget

/-- One lane of a vector. -/
lemma Spells.lane {type : PortType} {lanes : List (Lane W S)}
    (h : Spells A types env text type lanes) (letters : LetterSet) (lane : Fin 4)
    (hlane : type.offers ⟨letters, [lane]⟩ = true) {suffix : String}
    (hsuffix : suffix.toList = ['.', letters.letter lane]) {value : Lane W S}
    (hvalue : lanes[lane.val]? = some value) :
    Spells A types env (operand text ++ suffix) .float [value] := by
  have hselect := h.select _ hlane rfl hsuffix
  simpa only [List.filterMap_cons, hvalue, List.filterMap_nil] using hselect

/-- The first lane of a vector is spelled as a float. -/
lemma Spells.firstLane (henv : Respects types env) {source : PortType} {lanes : List (Lane W S)}
    (hsource : source.isVector = true) (h : Spells A types env text source lanes) :
    ∃ x rest, lanes = .scalar x :: rest ∧
      Spells A types env (Conversion.firstLane text source) .float [.scalar x] := by
  obtain ⟨xs, rfl, hcount⟩ :=
    exists_scalars A (h.fits henv) (PortType.laneKind_of_isVector hsource)
  cases xs with
  | nil => exact absurd hcount (PortType.laneCount_pos source).ne
  | cons x xs =>
    refine ⟨x, xs.map .scalar, rfl, ?_⟩
    cases source with
    | vec2 => exact h.lane .position 0 rfl rfl rfl
    | vec3 | vec4 => exact h.lane .color 0 rfl rfl rfl
    | _ => cases hsource

/-- A vector of two lanes is filled up. -/
lemma Spells.resize_vec2 {x y : S} (h : Spells A types env text .vec2 [.scalar x, .scalar y])
    {target : PortType} (htarget : target.isVector = true) :
    Spells A types env (Conversion.resize text .vec2 target) target
      (A.converted .vec2 target [.scalar x, .scalar y]) := by
  have hx : Spells A types env (operand text ++ ".x") .float [.scalar x] :=
    h.lane .position 0 rfl rfl rfl
  have hy : Spells A types env (operand text ++ ".y") .float [.scalar y] :=
    h.lane .position 1 rfl rfl rfl
  cases target with
  | vec2 => exact h
  | vec3 =>
    have htext : Conversion.resize text .vec2 .vec3 = "vec3(" ++ (operand text ++ ".x" ++ ", " ++
        (operand text ++ ".y" ++ ", " ++ "0.0")) ++ ")" := by
      simp [Conversion.resize, String.append_assoc]
    rw [htext]
    exact (hx.followed (hy.followed spells_zero.single)).construct rfl rfl
  | vec4 =>
    have htext : Conversion.resize text .vec2 .vec4 = "vec4(" ++ (operand text ++ ".x" ++ ", " ++
        (operand text ++ ".y" ++ ", " ++ ("0.0" ++ ", " ++ "1.0"))) ++ ")" := by
      simp [Conversion.resize, String.append_assoc]
    rw [htext]
    exact (hx.followed (hy.followed (spells_zero.followed spells_one.single))).construct rfl rfl
  | _ => cases htarget

/-- A vector of three lanes is filled up or cut. -/
lemma Spells.resize_vec3 {x y z : S}
    (h : Spells A types env text .vec3 [.scalar x, .scalar y, .scalar z]) {target : PortType}
    (htarget : target.isVector = true) :
    Spells A types env (Conversion.resize text .vec3 target) target
      (A.converted .vec3 target [.scalar x, .scalar y, .scalar z]) := by
  cases target with
  | vec2 => exact h.select ⟨.position, [0, 1]⟩ rfl rfl rfl
  | vec3 => exact h
  | vec4 =>
    have hx : Spells A types env (operand text ++ ".x") .float [.scalar x] :=
      h.lane .position 0 rfl rfl rfl
    have hy : Spells A types env (operand text ++ ".y") .float [.scalar y] :=
      h.lane .position 1 rfl rfl rfl
    have hz : Spells A types env (operand text ++ ".z") .float [.scalar z] :=
      h.lane .position 2 rfl rfl rfl
    have htext : Conversion.resize text .vec3 .vec4 = "vec4(" ++ (operand text ++ ".x" ++ ", " ++
        (operand text ++ ".y" ++ ", " ++ (operand text ++ ".z" ++ ", " ++ "1.0"))) ++ ")" := by
      simp [Conversion.resize, String.append_assoc]
    rw [htext]
    exact (hx.followed (hy.followed (hz.followed spells_one.single))).construct rfl rfl
  | _ => cases htarget

/-- A vector is filled up or cut. -/
lemma Spells.resize (henv : Respects types env) {source target : PortType}
    {lanes : List (Lane W S)} (hsource : source.isVector = true) (htarget : target.isVector = true)
    (h : Spells A types env text source lanes) :
    Spells A types env (Conversion.resize text source target) target
      (A.converted source target lanes) := by
  obtain ⟨xs, rfl, hcount⟩ :=
    exists_scalars A (h.fits henv) (PortType.laneKind_of_isVector hsource)
  cases source with
  | vec2 =>
    obtain ⟨x, y, rfl⟩ := List.length_eq_two.mp hcount
    exact h.resize_vec2 htarget
  | vec3 =>
    obtain ⟨x, y, z, rfl⟩ := List.length_eq_three.mp hcount
    exact h.resize_vec3 htarget
  | vec4 =>
    obtain ⟨x, y, z, w, rfl⟩ := List.length_eq_four.mp hcount
    cases target with
    | vec2 => exact h.select ⟨.position, [0, 1]⟩ rfl rfl rfl
    | vec3 => exact h.select ⟨.color, [0, 1, 2]⟩ rfl rfl rfl
    | vec4 => exact h
    | _ => cases htarget
  | _ => cases hsource

lemma exists_lane_of_int {lanes : List (Lane W S)} (h : PortType.int.Fits lanes) :
    ∃ w, lanes = [.whole w] := by
  obtain ⟨lane, rfl⟩ := List.length_eq_one_iff.mp h.1
  have hkind := h.2 lane List.mem_cons_self
  cases lane with
  | whole w => exact ⟨w, rfl⟩
  | truth b => cases hkind
  | scalar x => cases hkind

lemma exists_lane_of_float (A : Arithmetic W S) {lanes : List (Lane W S)}
    (h : PortType.float.Fits lanes) : ∃ x, lanes = [.scalar x] := by
  obtain ⟨xs, rfl, hcount⟩ := exists_scalars A h rfl
  obtain ⟨x, rfl⟩ := List.length_eq_one_iff.mp hcount
  exact ⟨x, rfl⟩

/-- A conversion that succeeds spells the converted value. -/
lemma Spells.convert (henv : Respects types env) {source target : PortType}
    {lanes : List (Lane W S)} (h : Spells A types env text source lanes) {node : Option String}
    {result : String} (hresult : Conversion.convert node text source target = .ok result) :
    Spells A types env result target (A.converted source target lanes) := by
  cases source with
  | bool =>
    cases target with
    | bool =>
      cases hresult
      exact h
    | _ => cases hresult
  | int =>
    obtain ⟨w, rfl⟩ := exists_lane_of_int (h.fits henv)
    cases target with
    | bool => cases hresult
    | int =>
      cases hresult
      exact h
    | float =>
      cases hresult
      exact h.toFloat
    | vec2 | vec3 | vec4 =>
      cases hresult
      exact h.toFloat.replicate rfl
  | float =>
    obtain ⟨x, rfl⟩ := exists_lane_of_float A (h.fits henv)
    cases target with
    | bool => cases hresult
    | float =>
      cases hresult
      exact h
    | int =>
      cases hresult
      exact h.toInt
    | vec2 | vec3 | vec4 =>
      cases hresult
      exact h.replicate rfl
  | vec2 | vec3 | vec4 =>
    obtain ⟨x, rest, rfl, hfirst⟩ := h.firstLane henv rfl
    cases target with
    | bool => cases hresult
    | float =>
      cases hresult
      exact hfirst
    | int =>
      cases hresult
      exact hfirst.toInt
    | vec2 | vec3 | vec4 =>
      cases hresult
      exact h.resize henv rfl rfl

/-- The conversion for parameters spells the value as a float. -/
lemma Spells.toParameter (henv : Respects types env) {source : PortType}
    {lanes : List (Lane W S)} (h : Spells A types env text source lanes) {node : Option String}
    {result : String} (hresult : Conversion.toParameter node text source = .ok result) :
    Spells A types env result .float (A.converted source .float lanes) := by
  cases source with
  | bool => cases hresult
  | int =>
    obtain ⟨w, rfl⟩ := exists_lane_of_int (h.fits henv)
    cases hresult
    exact h.toFloat
  | float =>
    cases hresult
    exact h
  | vec2 | vec3 | vec4 =>
    obtain ⟨x, rest, rfl, -⟩ := h.firstLane henv rfl
    cases hresult
    exact h.lane .position 0 rfl rfl rfl

/-- The conversion of the final color spells the value as a color. -/
lemma Spells.toColor (henv : Respects types env) {source : PortType} {lanes : List (Lane W S)}
    (h : Spells A types env text source lanes) {result : String}
    (hresult : Conversion.toColor text source = .ok result) :
    Spells A types env result .vec3 (A.converted source .vec3 lanes) := by
  cases source with
  | bool => cases hresult
  | int =>
    obtain ⟨w, rfl⟩ := exists_lane_of_int (h.fits henv)
    cases hresult
    have htext : "vec3(float(" ++ text ++ "))" = "vec3(" ++ ("float(" ++ text ++ ")") ++ ")" := by
      rw [← String.toList_inj]
      simp
    rw [htext]
    exact h.toFloat.single.construct rfl rfl
  | float =>
    obtain ⟨x, rfl⟩ := exists_lane_of_float A (h.fits henv)
    cases hresult
    exact h.single.construct rfl rfl
  | vec2 =>
    obtain ⟨xs, rfl, hcount⟩ := exists_scalars A (h.fits henv) rfl
    obtain ⟨x, y, rfl⟩ := List.length_eq_two.mp hcount
    cases hresult
    have htext : "vec3(" ++ text ++ ", 0.0)" = "vec3(" ++ (text ++ ", " ++ "0.0") ++ ")" := by
      simp [String.append_assoc]
    rw [htext]
    exact (h.followed spells_zero.single).construct rfl rfl
  | vec3 =>
    cases hresult
    exact h
  | vec4 =>
    cases hresult
    have hcut : Spells A types env (Conversion.resize text .vec4 .vec3) .vec3 _ :=
      h.resize henv rfl rfl
    exact hcut

/-- A conversion fails exactly between a truth and another type. -/
lemma convert_eq_error_iff {node : Option String} {source target : PortType} {fault : Fault} :
    Conversion.convert node text source target = .error fault ↔
      (source ≠ target ∧ (source = .bool ∨ target = .bool)) ∧
        fault = .conversion source target node := by
  cases source <;> cases target <;> simp [Conversion.convert, eq_comm]

/-! ### What a conversion keeps -/

variable (A types env)

/-- What the conversions of a text mean that spells a value of the type `source`. -/
structure ConvertsLanes (node : Option String) (text : String) (source : PortType)
    (lanes : List (Lane W S)) : Prop where
  /-- A truth does not become anything else, nor anything else a truth. -/
  fails_iff : ∀ target fault, Conversion.convert node text source target = .error fault ↔
    (source ≠ target ∧ (source = .bool ∨ target = .bool)) ∧ fault = .conversion source target node
  spells : ∀ target result, Conversion.convert node text source target = .ok result →
    Spells A types env result target (A.converted source target lanes)
  up_down : ∀ target, source.goesUp target = true → ∃ up down,
    Conversion.convert node text source target = .ok up ∧
    Conversion.convert node up target source = .ok down ∧ Spells A types env down source lanes
  down_down : ∀ middle target, target.goesUp middle = true → middle.goesUp source = true →
    ∃ half low direct value, Conversion.convert node text source middle = .ok half ∧
      Conversion.convert node half middle target = .ok low ∧
      Conversion.convert node text source target = .ok direct ∧
      Spells A types env low target value ∧ Spells A types env direct target value
  parameter_fails_iff : ∀ fault, Conversion.toParameter node text source = .error fault ↔
    Conversion.convert node text source .float = .error fault
  parameter : ∀ result, Conversion.toParameter node text source = .ok result →
    ∃ direct value, Conversion.convert node text source .float = .ok direct ∧
      Spells A types env result .float value ∧ Spells A types env direct .float value
  color_fails_iff : (∃ fault, Conversion.toColor text source = .error fault) ↔
    ∃ fault, Conversion.convert node text source .vec3 = .error fault
  color : ∀ result, Conversion.toColor text source = .ok result →
    ∃ direct value, Conversion.convert node text source .vec3 = .ok direct ∧
      Spells A types env result .vec3 value ∧ Spells A types env direct .vec3 value

variable {A types env}

/-- A conversion along the types succeeds. -/
lemma exists_convert_of_goesUp {source target : PortType}
    (h : source.goesUp target = true ∨ target.goesUp source = true) (node : Option String)
    (text : String) : ∃ result, Conversion.convert node text source target = .ok result := by
  revert h
  cases source <;> cases target <;> simp [Conversion.convert, PortType.goesUp, PortType.rank?]

/-- A parameter refuses what cannot become a float. -/
lemma toParameter_eq_error_iff {node : Option String} {source : PortType} {fault : Fault} :
    Conversion.toParameter node text source = .error fault ↔
      Conversion.convert node text source .float = .error fault := by
  cases source <;> simp [Conversion.toParameter, Conversion.convert]

/-- A color cannot be made of what cannot become three lanes. -/
lemma toColor_fails_iff {node : Option String} {source : PortType} :
    (∃ fault, Conversion.toColor text source = .error fault) ↔
      ∃ fault, Conversion.convert node text source .vec3 = .error fault := by
  cases source <;> simp [Conversion.toColor, Conversion.convert]

/-- Conversions on texts do to every typed expression what conversions on values do to its value. -/
theorem convertsLanes_of_typed (A : Arithmetic W S) (henv : Respects types env) {e : Expression}
    {source : PortType} (h : e.type? types = some source) (node : Option String) :
    ConvertsLanes A types env node (String.ofList e.text) source (e.eval A env) := by
  generalize htext : String.ofList e.text = text
  have hspells : Spells A types env text source (e.eval A env) :=
    spells_of_type? h (by rw [← htext, String.toList_ofList])
  have hfits := hspells.fits henv
  constructor
  case fails_iff => exact fun target fault => convert_eq_error_iff
  case spells => exact fun target result => hspells.convert henv
  case up_down =>
    intro target hup
    obtain ⟨up, hresult⟩ := exists_convert_of_goesUp (Or.inl hup) node text
    obtain ⟨down, hresult'⟩ := exists_convert_of_goesUp (Or.inr hup) node up
    have hspells_up := hspells.convert henv hresult
    have hspells_down := hspells_up.convert henv hresult'
    rw [A.converted_up_down hup hfits (hspells_up.fits henv)] at hspells_down
    exact ⟨up, down, hresult, hresult', hspells_down⟩
  case down_down =>
    intro middle target hlow hhigh
    obtain ⟨half, hresult⟩ := exists_convert_of_goesUp (Or.inr hhigh) node text
    obtain ⟨low, hresult'⟩ := exists_convert_of_goesUp (Or.inr hlow) node half
    obtain ⟨direct, hdirect⟩ :=
      exists_convert_of_goesUp (Or.inr (PortType.goesUp_trans hlow hhigh)) node text
    have hspells_half := hspells.convert henv hresult
    have hspells_low := hspells_half.convert henv hresult'
    rw [A.converted_down_down hhigh hlow hfits (hspells_half.fits henv)] at hspells_low
    exact ⟨half, low, direct, _, hresult, hresult', hdirect, hspells_low,
      hspells.convert henv hdirect⟩
  case parameter_fails_iff => exact fun fault => toParameter_eq_error_iff
  case parameter =>
    intro result hresult
    rcases eq_ok_or_eq_error (Conversion.convert node text source .float) with
      ⟨direct, hdirect⟩ | ⟨fault, hfault⟩
    · exact ⟨direct, _, hdirect, hspells.toParameter henv hresult, hspells.convert henv hdirect⟩
    · rw [toParameter_eq_error_iff.mpr hfault] at hresult
      cases hresult
  case color_fails_iff => exact toColor_fails_iff
  case color =>
    intro result hresult
    rcases eq_ok_or_eq_error (Conversion.convert node text source .vec3) with
      ⟨direct, hdirect⟩ | hfault
    · exact ⟨direct, _, hdirect, hspells.toColor henv hresult, hspells.convert henv hdirect⟩
    · obtain ⟨fault, hfault⟩ := toColor_fails_iff.mpr hfault
      rw [hfault] at hresult
      cases hresult

end Meaning

/-! ### Exact arithmetic -/

/-- Integers and fractions to compute with. -/
def Arithmetic.exact : Arithmetic ℤ ℚ where
  float literal :=
    let digits : ℚ := Decimal.digitsValue (literal.whole.val ++ literal.fraction.val)
    let exponent : ℤ := match literal.exponent with
      | some (true, digits) => -Decimal.digitsValue digits.val
      | some (false, digits) => Decimal.digitsValue digits.val
      | none => 0
    (if literal.negative then -digits else digits) *
      10 ^ (exponent - literal.fraction.val.length)
  integer literal :=
    let digits : ℤ := Decimal.digitsValue literal.digits.val
    if literal.negative then -digits else digits
  toScalar w := w
  toWhole x := x.num.tdiv x.den
  toWhole_toScalar w := by simp
  scalarOfTruth b := if b then 1 else 0
  wholeOfTruth b := if b then 1 else 0
  truthOfScalar x := x ≠ 0
  truthOfWhole w := w ≠ 0
  onScalars
    | .add, x, y => x + y
    | .subtract, x, y => x - y
    | .multiply, x, y => x * y
    | .divide, x, y => x / y
  onWholes
    | .add, v, w => v + w
    | .subtract, v, w => v - w
    | .multiply, v, w => v * w
    | .divide, v, w => v.tdiv w

/-- A color without alpha and one with it, in the variables `a` and `b`. -/
def colorTypes (x : VariableName) : Option PortType :=
  if x.val = ['a'] then some .vec4 else if x.val = ['b'] then some .vec3 else none

/-- The values of the two colors. -/
def colorLanes (x : VariableName) : List (Lane ℤ ℚ) :=
  if x.val = ['a'] then [.scalar 1, .scalar 2, .scalar 3, .scalar 4]
  else [.scalar (1 / 2), .scalar 1, .scalar (5 / 2)]

/-- The sum of the two colors, with the lanes in reverse order. -/
def mixedColors : Expression :=
  let blueToRed : Selection := ⟨.color, [⟨2, by decide⟩, ⟨1, by decide⟩, ⟨0, by decide⟩]⟩
  .select (.group (.combine (.name ⟨['a'], by decide⟩) .add
    (.construct .vec4 [.name ⟨['b'], by decide⟩, .float .one]))) blueToRed

/-- The lanes of the color fit its type. -/
lemma respects_colorTypes : Respects colorTypes colorLanes := by
  intro x type h
  unfold colorTypes at h
  unfold colorLanes
  split at h
  · next ha =>
    cases h
    rw [if_pos ha]
    exact ⟨rfl, by decide⟩
  · next ha =>
    rw [if_neg ha]
    split at h
    · cases h
      exact ⟨rfl, by decide⟩
    · cases h

/-- The lanes are reversed before the conversion, and the first of them is cut to an integer. -/
theorem convertsLanes_of_typed_mixedColors :
    Respects colorTypes colorLanes ∧ mixedColors.type? colorTypes = some .vec3 ∧
    ConvertsLanes Arithmetic.exact colorTypes colorLanes none "(a + vec4(b, 1.0)).bgr" .vec3
      [.scalar (11 / 2), .scalar 3, .scalar (3 / 2)] ∧
    Spells Arithmetic.exact colorTypes colorLanes "int(((a + vec4(b, 1.0)).bgr).r)" .int
      [.whole 5] := by
  have htype : mixedColors.type? colorTypes = some .vec3 := by decide +kernel
  have htext : String.ofList mixedColors.text = "(a + vec4(b, 1.0)).bgr" := by decide +kernel
  have hlanes : mixedColors.eval Arithmetic.exact colorLanes =
      [.scalar (11 / 2), .scalar 3, .scalar (3 / 2)] := by decide +kernel
  have hvalue : Arithmetic.exact.converted .vec3 .int
      [.scalar (11 / 2), .scalar 3, .scalar (3 / 2)] = [.whole 5] := by decide +kernel
  have hconverts := convertsLanes_of_typed Arithmetic.exact respects_colorTypes htype none
  rw [htext, hlanes] at hconverts
  refine ⟨respects_colorTypes, htype, hconverts, ?_⟩
  rw [← hvalue]
  exact hconverts.spells .int _ rfl

end ShaderLoom
