import ShaderLoom.Proofs.InsertionOrder
import ShaderLoom.Proofs.TemplateSegments
import ShaderLoom.Proofs.UniformNames

/-!
# Uniforms that are read are declared

A shader declares those uniforms of parameters whose names are found as whole words in its code.
The search looks at the finished code, long after a uniform was put into a template: in between the
code is freed of its indentation, its helpers get new names, and its lines are moved into a block.
A word that stands whole in the answer to a hole stays whole on all of this way, if the template
does not let it grow together with its neighbours and no helper has its name.

So a uniform that stands for a parameter in the code of a node is declared, with the type of the
parameter.  Conversely, every uniform that is declared for a parameter is mentioned in the code.
-/

namespace ShaderLoom

open Text

/-! ### Renaming other words -/

namespace Helper

lemma IsName.ne_empty {name : String} (h : IsName name) : name ≠ "" := by
  rintro rfl
  exact h.1 rfl

section OtherWord

variable {word : List Char} (hne : word ≠ []) (hword : AllWord word)

include hne hword

/-- A word that is not the name of the renamed helper stays. -/
lemma Renaming.hasWord_apply (r : Renaming) (hother : r.old ≠ word) {before : Option Char}
    {text : List Char} (h : HasWord word before text) :
    HasWord word before (r.apply before text) := by
  have hparenthesis : isWord '(' = false := by decide
  induction before, text using r.step_induction with
  | nil before => exact absurd h (not_hasWord_nil hne before)
  | call before space rest hbefore hspace ih =>
    rw [r.apply_call hbefore hspace, hasWord_append_cons_iff hne hword hparenthesis]
    rw [← List.append_assoc, hasWord_append_cons_iff hne hword hparenthesis] at h
    rcases h with h | h
    · -- the only word in front of the parenthesis is the old name
      have hold := h.of_append_right hne hword fun c hc => isWord_eq_false_of_isBlank (hspace c hc)
      exact absurd (hold.eq_of_allWord r.old_word) hother
    · exact Or.inr (ih h)
  | cons before c rest hno ih =>
    rcases (hasWord_cons_iff hne hword).mp h with h | h
    · obtain ⟨hbefore, right, htext, hright⟩ := (standsWhole_iff hne hword).mp h
      rw [htext] at hno ⊢
      rw [r.apply_word_append hword hno]
      exact ⟨[], _, rfl, hbefore, by rw [r.isWordSide_head?_apply]; exact hright⟩
    · rw [r.apply_cons hno]
      exact (hasWord_cons_iff hne hword).mpr (Or.inr (ih h))

/-- A word that is not the name of a renamed helper stays when several helpers are renamed. -/
lemma hasWord_of_renameAll {renames : List (String × String)}
    (hnames : ∀ rename ∈ renames, IsName rename.1 ∧ IsName rename.2)
    (hother : ∀ rename ∈ renames, rename.1.toList ≠ word) {code renamed : List Char}
    (h : renameAll renames code = .ok renamed) (hcode : HasWord word none code) :
    HasWord word none renamed := by
  obtain ⟨rs, rfl⟩ := Renaming.exists_map_pair hnames
  rw [Renaming.renameAll_map_pair] at h
  cases h
  clear hnames
  induction rs generalizing code with
  | nil => exact hcode
  | cons r rs ih =>
    have hr : r.old ≠ word := by
      have hpair := hother r.pair List.mem_cons_self
      rwa [Renaming.pair, String.toList_ofList] at hpair
    exact ih (r.hasWord_apply hne hword hr hcode)
      fun rename hrename => hother rename (List.mem_cons_of_mem _ hrename)

end OtherWord

end Helper

/-! ### Holes that stand free -/

namespace Template

section Concat

variable {α : Type}

/-- Segments are filled part by part. -/
lemma concat_append {m : Type → Type} [Monad m] [LawfulMonad m] (fill : α → m String)
    (left right : List (Segment α)) :
    concat fill (left ++ right) = do
      let first ← concat fill left
      let second ← concat fill right
      return first ++ second := by
  induction left with
  | nil => simp only [List.nil_append, concat, pure_bind, String.empty_append, bind_pure]
  | cons segment left ih =>
    cases segment <;>
      simp only [List.cons_append, concat, ih, bind_assoc, pure_bind, String.append_assoc]

variable {fill : α → Traced String} {left right : List (Segment α)} {text : String}

/-- What fills segments is what fills a first part of them, and then the rest. -/
lemma exists_of_concat_append (h : (concat fill (left ++ right)).outcome = .ok text) :
    ∃ first second, (concat fill left).outcome = .ok first ∧
      (concat fill right).outcome = .ok second ∧ text = first ++ second := by
  rw [concat_append, Traced.outcome_bind] at h
  obtain ⟨first, hfirst, h⟩ := bind_eq_ok_iff.mp h
  rw [Traced.outcome_bind] at h
  obtain ⟨second, hsecond, h⟩ := bind_eq_ok_iff.mp h
  exact ⟨first, second, hfirst, hsecond, (Except.ok.inj h).symm⟩

/-- A text among segments is put in as it is. -/
lemma exists_of_concat_literal {literal : List Char}
    (h : (concat fill (.literal literal :: right)).outcome = .ok text) :
    ∃ rest, (concat fill right).outcome = .ok rest ∧ text = String.ofList literal ++ rest := by
  rw [concat, Traced.outcome_bind] at h
  obtain ⟨rest, hrest, h⟩ := bind_eq_ok_iff.mp h
  exact ⟨rest, hrest, (Except.ok.inj h).symm⟩

/-- A hole among segments is put in as it is answered. -/
lemma exists_of_concat_hole {hole : α}
    (h : (concat fill (.hole hole :: right)).outcome = .ok text) :
    ∃ answer rest, (fill hole).outcome = .ok answer ∧ (concat fill right).outcome = .ok rest ∧
      text = answer ++ rest := by
  rw [concat, Traced.outcome_bind] at h
  obtain ⟨answer, hanswer, h⟩ := bind_eq_ok_iff.mp h
  rw [Traced.outcome_bind] at h
  obtain ⟨rest, hrest, h⟩ := bind_eq_ok_iff.mp h
  exact ⟨answer, rest, hanswer, hrest, (Except.ok.inj h).symm⟩

end Concat

/-- A hole has no other hole next to it, and no word leads up to it. -/
def StandsFree (template : String) (hole : Hole) : Prop :=
  ∃ left right, segments template = left ++ .hole hole :: right ∧
    (∀ segment, left.getLast? = some segment →
      ∃ text, segment = .literal text ∧ isWordSide text.getLast? = false) ∧
    ∀ segment, right.head? = some segment → ∃ text, segment = .literal text

lemma lastOf_of_ne_nil {text : List Char} (hne : text ≠ []) (before : Option Char) :
    lastOf before text = text.getLast? := by
  unfold lastOf
  rw [List.getLast?_eq_some_getLast hne]
  rfl

section Filled

variable {fill : Hole → Traced String} {template : String}

/-- What is filled in before the hole does not end with a word. -/
lemma isWordSide_lastOf_of_concat {left right : List (Segment Hole)}
    (hsegments : segments template = left ++ right)
    (hleft : ∀ segment, left.getLast? = some segment →
      ∃ text, segment = .literal text ∧ isWordSide text.getLast? = false)
    {first : String} (h : (concat fill left).outcome = .ok first) :
    isWordSide (lastOf none first.toList) = false := by
  rcases List.eq_nil_or_concat left with rfl | ⟨start, segment, rfl⟩
  · cases h
    rfl
  · rw [List.concat_eq_append] at hsegments hleft h
    obtain ⟨text, rfl, htext⟩ := hleft segment (by simp)
    have hne : text ≠ [] :=
      (isScan_segments template).literal_ne_nil (by rw [hsegments]; simp)
    obtain ⟨before, last, -, hlast, rfl⟩ := exists_of_concat_append h
    obtain ⟨rest, hrest, rfl⟩ := exists_of_concat_literal hlast
    cases hrest
    rw [String.toList_append, lastOf_append, String.append_empty, String.toList_ofList,
      lastOf_of_ne_nil hne]
    exact htext

/-- What is filled in behind a placeholder does not begin with a word. -/
lemma isWordSide_head?_of_concat {left right : List (Segment Hole)} {placeholder : Placeholder}
    (hsegments : segments template = left ++ .hole (.plain placeholder) :: right)
    (hright : ∀ segment, right.head? = some segment → ∃ text, segment = .literal text)
    {second : String} (h : (concat fill right).outcome = .ok second) :
    isWordSide second.toList.head? = false := by
  obtain ⟨before, rest, hfound, hscan⟩ :=
    (isScan_segments template).exists_of_append_hole hsegments
  have hrest : isWordSide rest.head? = false := by
    rcases hole?_cases hfound with ⟨other, hother, hplaceholder⟩ | ⟨_, _, _, helement, -⟩
    · cases hother
      obtain ⟨rest', htext, -, hend⟩ := source_of_placeholder? hplaceholder
      rwa [List.append_cancel_left htext]
    · cases helement
  cases hscan with
  | nil =>
    cases h
    rfl
  | hole _ _ =>
    obtain ⟨text, htext⟩ := hright _ rfl
    cases htext
  | @literal _ text rest segments hne _ _ _ =>
    obtain ⟨tail, -, rfl⟩ := exists_of_concat_literal h
    rw [String.toList_append, String.toList_ofList]
    obtain ⟨c, text, rfl⟩ := List.exists_cons_of_ne_nil hne
    exact hrest

/-- A word that stands whole in the answer to a hole that stands free stands whole in the filled
template.  An element of an array closes with a bracket, so it may be followed by anything. -/
theorem StandsFree.hasWord_concat {hole : Hole} (h : StandsFree template hole) {word : List Char}
    (hne : word ≠ []) (hword : AllWord word) {answer text : String}
    (hanswer : (fill hole).outcome = .ok answer)
    (htext : (concat fill (segments template)).outcome = .ok text)
    (hends : (∃ placeholder, hole = .plain placeholder) ∨
      isWordSide (lastOf none answer.toList) = false)
    (hstands : HasWord word none answer.toList) : HasWord word none text.toList := by
  obtain ⟨left, right, hsegments, hleft, hright⟩ := h
  rw [hsegments] at htext
  obtain ⟨first, rest, hfirst, hrest, rfl⟩ := exists_of_concat_append htext
  obtain ⟨answer', second, hanswer', hsecond, rfl⟩ := exists_of_concat_hole hrest
  rw [hanswer] at hanswer'
  cases hanswer'
  have hbefore := isWordSide_lastOf_of_concat hsegments hleft hfirst
  rw [String.toList_append, String.toList_append]
  refine HasWord.append_left (HasWord.append_right hne hword (hstands.of_before hbefore) ?_)
  rcases hends with ⟨placeholder, rfl⟩ | hends
  · exact Or.inr (isWordSide_head?_of_concat hsegments hright hsecond)
  · left
    cases hchars : answer.toList with
    | nil =>
      rw [hchars] at hstands
      exact absurd hstands (not_hasWord_nil hne none)
    | cons c chars =>
      rw [hchars] at hends
      rwa [lastOf_of_ne_nil (List.cons_ne_nil c chars)] at hends ⊢

end Filled

end Template

/-! ### Parameters that stand for uniforms -/

/-- A template reads a number or vector of its node at a hole that stands free. -/
structure Scope.Mentions (scope : Scope) (name : String) (parameter : Parameter)
    (hole : Template.Hole) : Prop where
  emitter : scope.type.emitter scope.scene.settings = .template
  declared : scope.type.parameter? name = some parameter
  numeric : parameter.type = .float ∨ parameter.type = .int ∨ parameter.type = .vec4
  asks : hole = .plain (.param name) ∨ ∃ index, hole = .element name index
  free : Template.StandsFree scope.type.mainCode hole

namespace Scope

variable {scope : Scope} {name : String} {parameter : Parameter}

section Numeric

variable (hdeclared : scope.type.parameter? name = some parameter)
  (hnumeric : parameter.type = .float ∨ parameter.type = .int ∨ parameter.type = .vec4)

include hdeclared hnumeric

lemma param_none_of_numeric : scope.param name none = scope.numericParameter name parameter := by
  unfold param
  rw [hdeclared]
  dsimp only
  rcases hnumeric with h | h | h <;> rw [h] <;> exact bind_pure _

/-- An index behind a parameter with numbers in it is written out. -/
lemma param_some_of_numeric (index : String) :
    scope.param name (some index) = do
      let value ← scope.numericParameter name parameter
      return value ++ "[" ++ index ++ "]" := by
  unfold param
  rw [hdeclared]
  dsimp only
  rcases hnumeric with h | h | h <;> rw [h]

end Numeric

/-- The answer to a hole is the value of the parameter, or an element of it. -/
lemma Mentions.exists_value {hole : Template.Hole} (h : scope.Mentions name parameter hole)
    {answer : String} (hanswer : (scope.resolver.fillHole hole).outcome = .ok answer) :
    ∃ value, (scope.numericParameter name parameter).outcome = .ok value ∧
      ((∃ placeholder, hole = .plain placeholder) ∧ answer = value ∨
        ∃ index, answer = value ++ "[" ++ index ++ "]") := by
  rcases h.asks with rfl | ⟨index, rfl⟩
  · have hparam : (scope.param name none).outcome = .ok answer := hanswer
    rw [param_none_of_numeric h.declared h.numeric] at hparam
    exact ⟨answer, hparam, Or.inl ⟨⟨_, rfl⟩, rfl⟩⟩
  · unfold Template.Resolver.fillHole at hanswer
    dsimp only at hanswer
    rw [Traced.outcome_bind] at hanswer
    obtain ⟨filled, -, hanswer⟩ := bind_eq_ok_iff.mp hanswer
    have hparam : (scope.param name (some filled)).outcome = .ok answer := hanswer
    rw [param_some_of_numeric h.declared h.numeric, Traced.outcome_bind] at hparam
    obtain ⟨value, hvalue, hparam⟩ := bind_eq_ok_iff.mp hparam
    exact ⟨value, hvalue, Or.inr ⟨filled, (Except.ok.inj hparam).symm⟩⟩

/-- A wire into one parameter leaves the others alone. -/
lemma find?_addParameterWire {chosen result : Table (Nat × String)} {wire : Wire}
    {other : String} (hne : other ≠ name)
    (h : (scope.addParameterWire chosen wire other).outcome = .ok result) :
    result.find? name = chosen.find? name := by
  rcases addParameterWire_cases h with rfl | ⟨_, _, _, position, expr, -, -, -, -, rfl⟩
  · rfl
  · rw [Table.find?_insert, if_neg hne]

/-- A parameter into which no wire leads has no wire. -/
lemma find?_parameterWires_of_not_isWired
    (hwired : Uniform.isWired scope.scene.graph scope.node.id name = false)
    {wires : Table String} (h : scope.parameterWires.outcome = .ok wires) :
    wires.find? name = none := by
  have hother : ∀ item ∈ scope.scene.graph.parameterWires scope.node.id, item.2 ≠ name := by
    rintro ⟨wire, other⟩ hitem rfl
    obtain ⟨wire', hwire, hitem⟩ := List.mem_filterMap.mp hitem
    split at hitem
    · next hnode =>
      obtain ⟨_, hparameter, hpair⟩ := Option.map_eq_some_iff.mp hitem
      cases hpair
      have hnot := List.any_eq_false.mp hwired wire hwire
      simp [hnode, hparameter] at hnot
    · cases hitem
  unfold parameterWires at h
  rw [Traced.outcome_bind, Traced.outcome_foldlM] at h
  obtain ⟨chosen, hchosen, h⟩ := bind_eq_ok_iff.mp h
  cases h
  rw [Table.find?_map]
  have hnone : chosen.find? name = (Table.empty : Table (Nat × String)).find? name := by
    generalize scope.scene.graph.parameterWires scope.node.id = items at hother hchosen
    generalize Table.empty = start at hchosen ⊢
    induction items generalizing start with
    | nil =>
      cases hchosen
      rfl
    | cons item items ih =>
      rw [List.foldlM_cons] at hchosen
      obtain ⟨next, hnext, hchosen⟩ := bind_eq_ok_iff.mp hchosen
      rw [ih (fun other hmem => hother other (List.mem_cons_of_mem item hmem)) next hchosen]
      exact find?_addParameterWire (hother item List.mem_cons_self) hnext
  rw [hnone]
  rfl

/-- A parameter with a uniform stands for the uniform, unless a wire overrides it. -/
lemma hasWord_of_numericParameter {u : String}
    (hfind : scope.scene.uniform? scope.node.id name = some u)
    (hmode : Uniform.isWired scope.scene.graph scope.node.id name = false ∨
      scope.node.mode name (some parameter) ≠ .override)
    {value : String} (h : (scope.numericParameter name parameter).outcome = .ok value) :
    HasWord u.toList none value.toList := by
  unfold numericParameter readNumber at h
  rw [Traced.outcome_bind] at h
  obtain ⟨wires, hwires, h⟩ := bind_eq_ok_iff.mp h
  cases hwire : wires.find? name with
  | none =>
    rw [hwire] at h
    dsimp only at h
    rw [hfind] at h
    cases h
    exact hasWord_self _
  | some wire =>
    have hmode' : scope.node.mode name (some parameter) ≠ .override := by
      refine hmode.resolve_left fun hwired => ?_
      rw [find?_parameterWires_of_not_isWired hwired hwires] at hwire
      cases hwire
    rw [hwire] at h
    dsimp only at h
    rw [Traced.outcome_bind, outcome_modeOf, ok_bind, if_neg hmode', Traced.outcome_bind] at h
    unfold joinedValue at h
    rw [hfind] at h
    cases h
    -- the uniform stands between a parenthesis and a blank
    have hopen : "(".toList = ['('] := by decide
    have hblank : " ".toList = [' '] := by decide
    simp only [String.toList_append, List.append_assoc, hopen, hblank, List.singleton_append]
    refine ⟨['('], _, rfl, by decide, ?_⟩
    show isWord ' ' = false
    decide

/-- A word in the value of a parameter is a word in the answer to a hole that asks for it. -/
lemma Mentions.hasWord_answer {hole : Template.Hole} (h : scope.Mentions name parameter hole)
    {word : List Char} (hne : word ≠ []) (hword : AllWord word) {answer : String}
    (hanswer : (scope.resolver.fillHole hole).outcome = .ok answer)
    (hvalue : ∀ value, (scope.numericParameter name parameter).outcome = .ok value →
      HasWord word none value.toList) : HasWord word none answer.toList := by
  have hbracket : "[".toList = ['['] := by decide
  obtain ⟨value, hfound, ⟨-, rfl⟩ | ⟨index, rfl⟩⟩ := h.exists_value hanswer
  · exact hvalue _ hfound
  · simp only [String.toList_append, List.append_assoc, hbracket, List.singleton_append]
    exact (hasWord_append_cons_iff hne hword (by decide)).mpr (Or.inl (hvalue _ hfound))

/-- The holes of a template that is filled are filled. -/
lemma Mentions.exists_answer {hole : Template.Hole} (h : scope.Mentions name parameter hole)
    {rendered : String} (hrendered : (scope.render scope.type.mainCode).outcome = .ok rendered) :
    ∃ answer, (scope.resolver.fillHole hole).outcome = .ok answer := by
  obtain ⟨left, right, hsegments, -, -⟩ := h.free
  unfold render Template.render at hrendered
  rw [hsegments] at hrendered
  obtain ⟨_, rest, -, hrest, -⟩ := Template.exists_of_concat_append hrendered
  obtain ⟨answer, _, hanswer, -, -⟩ := Template.exists_of_concat_hole hrest
  exact ⟨answer, hanswer⟩

/-- A word in the answer to a hole that stands free is a word of the filled template. -/
lemma Mentions.hasWord_rendered {hole : Template.Hole} (h : scope.Mentions name parameter hole)
    {word : List Char} (hne : word ≠ []) (hword : AllWord word) {answer rendered : String}
    (hanswer : (scope.resolver.fillHole hole).outcome = .ok answer)
    (hrendered : (scope.render scope.type.mainCode).outcome = .ok rendered)
    (hstands : HasWord word none answer.toList) : HasWord word none rendered.toList := by
  refine h.free.hasWord_concat hne hword hanswer hrendered ?_ hstands
  obtain ⟨value, -, ⟨hplain, -⟩ | ⟨index, rfl⟩⟩ := h.exists_value hanswer
  · exact Or.inl hplain
  · right
    have hclose : "]".toList = [']'] := by decide
    rw [String.toList_append, lastOf_append, hclose, lastOf_cons, lastOf_nil]
    decide

/-! ### The code of a node -/

/-- The code of a template is made from the declarations of arrays and the filled template. -/
lemma exists_of_templateCode {code : String} (hcode : scope.templateCode.outcome = .ok code) :
    ∃ declarations rendered, scope.arrayDeclarations = .ok declarations ∧
      (scope.render scope.type.mainCode).outcome = .ok rendered ∧
      code = "\n".intercalate (if allBlank (trimNewlines (dedent rendered.toList)) then declarations
        else declarations ++ [String.ofList (trimNewlines (dedent rendered.toList))]) := by
  unfold templateCode at hcode
  rw [Traced.outcome_bind] at hcode
  obtain ⟨declarations, hdeclarations, hcode⟩ := bind_eq_ok_iff.mp hcode
  rw [Traced.outcome_bind] at hcode
  obtain ⟨rendered, hrendered, hcode⟩ := bind_eq_ok_iff.mp hcode
  exact ⟨declarations, rendered, hdeclarations, hrendered, (Except.ok.inj hcode).symm⟩

/-- A word of the filled template is a word of the code that is made from it. -/
lemma exists_rendered_of_templateCode {code : String}
    (hcode : scope.templateCode.outcome = .ok code) :
    ∃ rendered, (scope.render scope.type.mainCode).outcome = .ok rendered ∧
      ∀ word, word ≠ [] → AllWord word →
        HasWord word none rendered.toList → HasWord word none code.toList := by
  obtain ⟨declarations, rendered, -, hrendered, rfl⟩ := exists_of_templateCode hcode
  refine ⟨rendered, hrendered, fun word hne hword h => ?_⟩
  have hbody : HasWord word none (trimNewlines (dedent rendered.toList)) :=
    (h.dedent hne hword).trimNewlines hne hword
  rw [hbody.not_allBlank hne hword, if_neg Bool.false_ne_true, toList_intercalate_newline]
  refine (hasWord_joinLines_iff hne hword).mpr ⟨_, ?_, hbody⟩
  rw [List.map_append, List.map_singleton, String.toList_ofList]
  exact List.mem_append_right _ List.mem_cons_self

/-- A word that is not renamed stays in the code of the node when its helpers are renamed. -/
lemma exists_renamed_of_body
    (hnames : ∀ rename ∈ scope.scene.renamesOf scope.node.id,
      Helper.IsName rename.1 ∧ Helper.IsName rename.2) {emitted : Traced String}
    (hemit : scope.emit = emitted >>= fun code => pure (some code)) {result : Option (List Char)}
    (hbody : scope.body.outcome = .ok result) :
    ∃ code renamed, emitted.outcome = .ok code ∧ result = some renamed ∧
      ∀ word, word ≠ [] → AllWord word →
        (∀ rename ∈ scope.scene.renamesOf scope.node.id, rename.1.toList ≠ word) →
        HasWord word none code.toList → HasWord word none renamed := by
  unfold body at hbody
  rw [hemit, Traced.outcome_bind, Traced.outcome_bind] at hbody
  obtain ⟨found, hfound, hbody⟩ := bind_eq_ok_iff.mp hbody
  obtain ⟨code, hcode, hfound⟩ := bind_eq_ok_iff.mp hfound
  cases hfound
  dsimp only at hbody
  rw [Traced.outcome_bind, Traced.outcome_liftM] at hbody
  obtain ⟨renamed, hrenamed, hbody⟩ := bind_eq_ok_iff.mp hbody
  cases hbody
  refine ⟨code, renamed, hcode, rfl, fun word hne hword hother h => ?_⟩
  exact Helper.hasWord_of_renameAll hne hword hnames hother hrenamed (h.dedent hne hword)

/-- A node with a template emits the code of the template. -/
lemma emit_of_template (hemitter : scope.type.emitter scope.scene.settings = .template) :
    scope.emit = scope.templateCode >>= fun code => pure (some code) := by
  unfold emit
  rw [hemitter]

/-- A word of the filled template that is not renamed is a word of the code of the node. -/
lemma exists_rendered_of_body (hemitter : scope.type.emitter scope.scene.settings = .template)
    (hnames : ∀ rename ∈ scope.scene.renamesOf scope.node.id,
      Helper.IsName rename.1 ∧ Helper.IsName rename.2) {result : Option (List Char)}
    (hbody : scope.body.outcome = .ok result) :
    ∃ rendered code, (scope.render scope.type.mainCode).outcome = .ok rendered ∧
      result = some code ∧
      ∀ word, word ≠ [] → AllWord word →
        (∀ rename ∈ scope.scene.renamesOf scope.node.id, rename.1.toList ≠ word) →
        HasWord word none rendered.toList → HasWord word none code := by
  obtain ⟨code, renamed, hcode, rfl, hstays⟩ :=
    exists_renamed_of_body hnames (emit_of_template hemitter) hbody
  obtain ⟨rendered, hrendered, hkept⟩ := exists_rendered_of_templateCode hcode
  exact ⟨rendered, renamed, hrendered, rfl, fun word hne hword hother h =>
    hstays word hne hword hother (hkept word hne hword h)⟩

end Scope

/-! ### The code of all nodes -/

/-- A word of a line of code is a word of a line of its block. -/
lemma Block.exists_line {word : List Char} (hne : word ≠ []) (hword : AllWord word) {block : Block}
    {line : List Char} (hline : line ∈ block.code) (h : HasWord word none line) :
    ∃ text ∈ block.lines, HasWord word none text.toList := by
  refine ⟨"    " ++ String.ofList line, ?_, ?_⟩
  · refine List.mem_append_left _ (List.mem_append_right _ (List.mem_map.mpr ⟨line, hline, ?_⟩))
    rw [h.not_allBlank hne hword, if_neg Bool.false_ne_true]
  · have hindent : isWordSide (lastOf none "    ".toList) = false := by decide
    have hchars : (String.ofList line).toList = line := String.toList_ofList
    rw [String.toList_append, hchars]
    exact HasWord.append_left (h.of_before hindent)

namespace Scene

variable {scene : Scene} {id : String} {scope : Scope}

/-- What the block of a node with a scope is made from. -/
lemma exists_body_of_block? (hof : Scope.of? scene id = some scope)
    {result : Option Block} (h : (scene.block? id).outcome = .ok result) :
    ∃ body, scope.body.outcome = .ok body ∧ result = body.bind fun code =>
      if allBlank code then none
      else some ⟨scope.type.displayName, id, lines (trimNewlines code)⟩ := by
  unfold block? at h
  rw [hof] at h
  dsimp only at h
  rw [Traced.outcome_bind] at h
  obtain ⟨body, hbody, h⟩ := bind_eq_ok_iff.mp h
  refine ⟨body, hbody, ?_⟩
  cases body with
  | none =>
    cases h
    rfl
  | some code =>
    dsimp only at h
    rw [Option.bind_some]
    split at h
    · next hblank =>
      cases h
      rw [if_pos hblank]
    · next hblank =>
      cases h
      rw [if_neg hblank]

/-- A word of the code of a node that runs stands in a line of the block of the node. -/
lemma exists_body_of_blocks {blocks : List Block} (hblocks : scene.blocks.outcome = .ok blocks)
    (hid : id ∈ scene.order) (hof : Scope.of? scene id = some scope) :
    ∃ result, scope.body.outcome = .ok result ∧
      ∀ code, result = some code → ∀ word, word ≠ [] → AllWord word → HasWord word none code →
        ∃ block ∈ blocks, block.node = id ∧ ∃ line ∈ block.code, HasWord word none line := by
  unfold Scene.blocks at hblocks
  rw [Traced.outcome_bind, Traced.outcome_mapM] at hblocks
  obtain ⟨found, hfound, hblocks⟩ := bind_eq_ok_iff.mp hblocks
  cases hblocks
  obtain ⟨own, hmem, hown⟩ := exists_ok_of_mapM_eq_ok hfound hid
  obtain ⟨result, hbody, rfl⟩ := exists_body_of_block? hof hown
  refine ⟨result, hbody, ?_⟩
  rintro code rfl word hne hword hcode
  rw [Option.bind_some, hcode.not_allBlank hne hword, if_neg Bool.false_ne_true] at hmem
  refine ⟨_, List.mem_filterMap.mpr ⟨_, hmem, rfl⟩, rfl, ?_⟩
  exact (hasWord_iff_exists_line hne hword).mp (hcode.trimNewlines hne hword)

/-- A word of the code of a node that runs is a word of the code of the program. -/
lemma exists_body_of_program {program : Program} (hprogram : scene.program.outcome = .ok program)
    (hid : id ∈ scene.order) (hof : Scope.of? scene id = some scope) :
    ∃ result, scope.body.outcome = .ok result ∧
      ∀ code, result = some code → ∀ word, word ≠ [] → AllWord word →
        HasWord word none code → HasWord word none program.mainCode.toList := by
  obtain ⟨_, blocks, _, -, hblocks, -, rfl⟩ := Scene.exists_of_program hprogram
  obtain ⟨result, hbody, hlines⟩ := exists_body_of_blocks hblocks hid hof
  refine ⟨result, hbody, fun code hresult word hne hword hcode => ?_⟩
  obtain ⟨block, hblock, -, line, hline, hstands⟩ := hlines code hresult word hne hword hcode
  obtain ⟨text, htext, hword'⟩ := Block.exists_line hne hword hline hstands
  show HasWord word none ("\n".intercalate (blocks.flatMap Block.lines)).toList
  rw [toList_intercalate_newline]
  refine (hasWord_joinLines_iff hne hword).mpr ⟨text.toList, List.mem_map_of_mem ?_, hword'⟩
  exact List.mem_flatMap.mpr ⟨block, hblock, htext⟩

end Scene

/-! ### Records and declarations -/

namespace Uniform

variable {graph : Graph} {catalog : Catalog} {settings : Settings} {table : Table String}

/-- Allocated uniforms are named after a node and one of its names. -/
lemma exists_of_mem_values_allocate (h : allocate graph catalog settings = .ok table)
    {u : String} (hu : u ∈ table.values) : ∃ id name, u = Identifier.uniform id name := by
  obtain ⟨key, hfind⟩ := (Table.mem_values_iff (nodup_keys_allocate h)).mp hu
  rw [eq_insertAll_of_allocate h] at hfind
  rcases Table.exists_of_find?_insertAll hfind with ⟨entry, hentry, rfl⟩ | hnone
  · obtain ⟨id, name, -, rfl⟩ := mem_entriesOf_iff.mp hentry
    exact ⟨id, name, rfl⟩
  · cases hnone

/-- A uniform is used when its name is found in the code. -/
lemma mem_used_iff {code : List Char} {u : String} :
    u ∈ used code table ↔ u ∈ table.values ∧ occursWhole u.toList none code = true := by
  unfold used
  rw [mem_sortedSet, List.mem_filter]

/-- The uniform of a parameter that is used is recorded with the type of the parameter. -/
lemma exists_mem_records {names : List String} {found : List Record}
    (h : records graph catalog table (some names) settings = .ok found) {node : Node}
    (hnode : node ∈ graph.nodes) {type : NodeType} (htype : catalog.find? node.type = some type)
    {name : String} {parameter : Parameter} (hparameter : type.parameter? name = some parameter)
    (harray : parameter.type ≠ .array) {u : String}
    (hfind : table.find? (key node.id name) = some u) (hne : u ≠ "") (hused : u ∈ names) :
    ∃ record ∈ found, record.type = parameter.type.uniformKeyword ∧ record.name = u := by
  have hnodes := h
  rw [records_eq] at hnodes
  obtain ⟨perNode, hperNode, -⟩ := bind_eq_ok_iff.mp hnodes
  obtain ⟨own, -, hown⟩ := exists_ok_of_mapM_eq_ok hperNode hnode
  refine ⟨⟨u, node.id, name, parameter.type.uniformKeyword, initial node name parameter, false⟩,
    (mem_records_iff h).mpr ⟨node, hnode, own, hown, ?_⟩, rfl, rfl⟩
  unfold recordsOf at hown
  rw [htype] at hown
  obtain ⟨outputs, -, hown⟩ := bind_eq_ok_iff.mp hown
  cases hown
  refine List.mem_append_right _ (mem_parameterRecords_iff.mpr ?_)
  exact ⟨name, parameter, u, Table.mem_entries_of_find? hparameter, hfind, hne, harray,
    List.contains_iff_mem.mpr hused, rfl⟩

/-- What is recorded of parameters is used. -/
lemma mem_used_of_mem_records {names : List String} {found : List Record}
    (h : records graph catalog table (some names) settings = .ok found) {record : Record}
    (hrecord : record ∈ found) (haudio : record.isAudio = false) : record.name ∈ names := by
  obtain ⟨node, -, type, -, ⟨outputs, port, u, -, -, -, rfl⟩ |
    ⟨name, parameter, u, -, -, -, hused, rfl⟩⟩ := cases_of_mem_records h hrecord
  · cases haudio
  · exact hused names rfl

/-- A declaration is one line. -/
lemma newline_not_mem_declarationLine (type : ParameterType) {u : String} (hu : AllWord u.toList) :
    '\n' ∉ (declarationLine (type.uniformKeyword, u)).toList := by
  have hstart : '\n' ∉ ("uniform " ++ type.uniformKeyword ++ " ").toList := by
    cases type <;> decide
  have hend : '\n' ∉ ";".toList := by decide
  unfold declarationLine
  rw [String.toList_append, String.toList_append, List.mem_append, List.mem_append, not_or, not_or]
  refine ⟨⟨hstart, fun hnewline => ?_⟩, hend⟩
  exact absurd (hu '\n' hnewline) (by decide)

/-- Every uniform has its line among the declarations. -/
lemma mem_lines_declarations {uniforms : List (String × String)} {uniform : String × String}
    (h : uniform ∈ uniforms) (hline : '\n' ∉ (declarationLine uniform).toList) :
    (declarationLine uniform).toList ∈ lines (declarations uniforms).toList := by
  have hmem : declarationLine uniform ∈ sortedSet (uniforms.map declarationLine) :=
    mem_sortedSet.mpr (List.mem_map_of_mem h)
  have hmem' := List.mem_map_of_mem (f := String.toList) hmem
  rw [declarations_eq, toList_intercalate_newline, lines_joinLines (List.ne_nil_of_mem hmem')]
  refine List.mem_flatMap.mpr ⟨_, hmem', ?_⟩
  rw [lines_of_unbroken hline]
  exact List.mem_cons_self

end Uniform

/-- The declarations of uniforms are lines of the shader. -/
lemma mem_lines_shaderText {settings : Settings} {uniforms : String} {program : Program}
    {color : String} {line : List Char} (h : line ∈ lines uniforms.toList) :
    line ∈ lines (shaderText settings uniforms program color).toList := by
  unfold shaderText
  dsimp only
  rw [toList_intercalate_newline, lines_joinLines (by simp)]
  refine List.mem_flatMap.mpr ⟨uniforms.toList, List.mem_map_of_mem ?_, h⟩
  simp

/-! ### Closure -/

/-- The names of the helpers of a type. -/
def NodeType.helperNames (type : NodeType) : List String :=
  ((type.helperTemplate?).map fun template => Helper.names template.toList).getD []

/-- Only helpers of its own type are renamed in the code of a node. -/
lemma Scene.mem_helperNames_of_mem_renamesOf {scene : Scene} {plan : Table (Table String)}
    (hplan : scene.plan.outcome = .ok plan) {id : String} {scope : Scope}
    (hof : Scope.of? (scene.withRenames plan) id = some scope) {rename : String × String}
    (h : rename ∈ (scene.withRenames plan).renamesOf id) : rename.1 ∈ scope.type.helperNames := by
  obtain ⟨user, huser, rfl, hrename⟩ := Scene.exists_helperUser_of_mem_renamesOf hplan h
  obtain ⟨-, hof', htemplate⟩ := Scene.mem_helperUsers_iff.mp huser
  rw [(scene.agrees_renames plan).of?_eq, hof'] at hof
  cases hof
  have hnames : user.scope.type.helperNames = Helper.names user.template.toList := by
    unfold NodeType.helperNames
    rw [htemplate]
    rfl
  show rename.1 ∈ user.scope.type.helperNames
  rw [hnames]
  unfold Scene.helperRenames at hrename
  split at hrename
  · cases hrename
  · obtain ⟨name, hname, rfl⟩ := List.mem_map.mp hrename
    exact hname

/-- The uniforms that a shader declares for parameters are those that its code reads. -/
structure Compiled.UniformsClosed (compiled : Compiled) (scene : Scene) (program : Program) :
    Prop where
  names : compiled.uniformNames = scene.uniforms
  shader : ∃ uniforms color,
    compiled.shader = shaderText scene.settings uniforms program color
  /-- A uniform that is part of what a parameter stands for is declared with the type of the
  parameter. -/
  declared : ∀ id ∈ scene.order, ∀ scope, Scope.of? scene id = some scope →
    ∀ name parameter hole, scope.Mentions name parameter hole →
    ∀ answer, (scope.resolver.fillHole hole).outcome = .ok answer →
    ∀ u, compiled.uniformNames.find? (Uniform.key id name) = some u →
      HasWord u.toList none answer.toList → u ∉ scope.type.helperNames →
        (Uniform.declarationLine (parameter.type.uniformKeyword, u)).toList ∈
          lines compiled.shader.toList
  /-- The uniform of a parameter is part of what the parameter stands for, unless a wire overrides
  it. -/
  supplied : ∀ id ∈ scene.order, ∀ scope, Scope.of? scene id = some scope →
    ∀ name parameter hole, scope.Mentions name parameter hole →
      (Uniform.isWired scene.graph id name = false ∨
        scope.node.mode name (some parameter) ≠ .override) →
    ∀ u, compiled.uniformNames.find? (Uniform.key id name) = some u →
      ∃ answer, (scope.resolver.fillHole hole).outcome = .ok answer ∧
        HasWord u.toList none answer.toList
  /-- A uniform that is recorded for a parameter is mentioned in the code. -/
  mentioned : ∀ record ∈ compiled.uniforms, record.isAudio = false →
    HasWord record.name.toList none program.mainCode.toList ∨
      HasWord record.name.toList none program.helpers.toList

namespace Request

variable {request : Request}

/-- The uniforms of a request are words, if the caller's are. -/
lemma Generation.isName_of_mem_uniforms (generation : request.Generation)
    (hnames : ∀ table, request.uniforms = some table → ∀ u ∈ table.values, Helper.IsName u)
    {u : String} (hu : u ∈ generation.scene.uniforms.values) : Helper.IsName u := by
  rcases (isScene_of_scene generation.scene_eq).uniforms with hnamed | ⟨-, hallocated⟩
  · exact hnames _ hnamed u hu
  · obtain ⟨id, name, rfl⟩ := Uniform.exists_of_mem_values_allocate hallocated hu
    exact Identifier.isName_uniform id name

/-- A word that is found in the code stands in the blocks of the nodes or in the helpers. -/
lemma occursWhole_code_iff {u : String} (hu : Helper.IsName u) (program : Program) :
    occursWhole u.toList none (program.mainCode ++ "\n" ++ program.helpers).toList = true ↔
      HasWord u.toList none program.mainCode.toList ∨
        HasWord u.toList none program.helpers.toList := by
  have hnewline : isWord '\n' = false := by decide
  have hmark : "\n".toList = ['\n'] := by decide
  rw [occursWhole_iff hu.1 hu.2]
  simp only [String.toList_append, List.append_assoc, hmark, List.singleton_append]
  rw [hasWord_append_cons_iff hu.1 hu.2 hnewline]
  exact or_congr_right ⟨fun h => h.of_before rfl, fun h => h.of_before hnewline⟩

/-- A uniform of a parameter that is found in the code of the nodes is declared. -/
lemma Generation.mem_lines_of_hasWord (generation : request.Generation) {id : String}
    {scope : Scope}
    (hof : Scope.of? (generation.scene.withRenames generation.plan) id = some scope)
    {name : String} {parameter : Parameter}
    (hdeclared : scope.type.parameter? name = some parameter)
    (harray : parameter.type ≠ .array) {u : String} (hu : Helper.IsName u)
    (hfind : generation.scene.uniforms.find? (Uniform.key id name) = some u)
    (hfound : HasWord u.toList none generation.program.mainCode.toList)
    (settings : Settings) (color : String) :
    (Uniform.declarationLine (parameter.type.uniformKeyword, u)).toList ∈
      lines (shaderText settings generation.uniformText generation.program color).toList := by
  have hscene := isScene_of_scene generation.scene_eq
  obtain ⟨node, type, hnode, htype, rfl⟩ := Scope.of?_eq_some_iff.mp hof
  have hmem : node ∈ request.graph.nodes := by
    rw [← hscene.graph]
    exact Graph.mem_of_node? hnode
  have htype' : request.catalog.find? node.type = some type := by
    rw [← hscene.catalog]
    exact htype
  have hid : node.id = id := Graph.id_of_node? hnode
  have hused := Uniform.mem_used_iff.mpr
    ⟨List.mem_map_of_mem (Table.mem_entries_of_find? hfind),
      (occursWhole_code_iff hu generation.program).mpr (Or.inl hfound)⟩
  obtain ⟨record, hrecord, hkeyword, hname⟩ := Uniform.exists_mem_records generation.records_eq
    hmem htype' hdeclared harray (by rw [hid]; exact hfind) hu.ne_empty hused
  refine mem_lines_shaderText (Uniform.mem_lines_declarations ?_
    (Uniform.newline_not_mem_declarationLine parameter.type hu.2))
  rw [← hkeyword, ← hname]
  exact List.mem_map_of_mem (f := fun record : Uniform.Record => (record.type, record.name)) hrecord

/-- With the compiler's own names, the code of a node has helpers of its type renamed to words. -/
lemma Generation.isName_of_mem_renamesOf (generation : request.Generation)
    (hrenames : request.renames = none) {id : String} {scope : Scope}
    (hof : Scope.of? (generation.scene.withRenames generation.plan) id = some scope) :
    ∀ rename ∈ scope.scene.renamesOf scope.node.id,
      (Helper.IsName rename.1 ∧ Helper.IsName rename.2) ∧ rename.1 ∈ scope.type.helperNames := by
  have hplan : generation.scene.plan.outcome = .ok generation.plan := by
    rw [← outcome_plan hrenames]
    exact generation.plan_eq
  have hrenamesOf : scope.scene.renamesOf scope.node.id =
      (generation.scene.withRenames generation.plan).renamesOf id := by
    rw [Scope.id_of_of? hof]
    obtain ⟨_, _, -, -, rfl⟩ := Scope.of?_eq_some_iff.mp hof
    rfl
  intro rename hrename
  rw [hrenamesOf] at hrename
  exact ⟨Scene.isName_of_mem_renamesOf hplan hrename,
    Scene.mem_helperNames_of_mem_renamesOf hplan hof hrename⟩

/-- What stands in the filled template of a node that runs stands in the code of the program,
names of helpers apart. -/
lemma Generation.exists_rendered (generation : request.Generation)
    (hrenames : request.renames = none) {id : String}
    (hid : id ∈ (generation.scene.withRenames generation.plan).order) {scope : Scope}
    (hof : Scope.of? (generation.scene.withRenames generation.plan) id = some scope)
    (hemitter : scope.type.emitter scope.scene.settings = .template) :
    ∃ rendered, (scope.render scope.type.mainCode).outcome = .ok rendered ∧
      ∀ u, Helper.IsName u → u ∉ scope.type.helperNames →
        HasWord u.toList none rendered.toList →
          HasWord u.toList none generation.program.mainCode.toList := by
  have hrenamed := generation.isName_of_mem_renamesOf hrenames hof
  obtain ⟨result, hbody, hmain⟩ := Scene.exists_body_of_program generation.program_eq hid hof
  obtain ⟨rendered, code, hrendered, hresult, hkept⟩ :=
    Scope.exists_rendered_of_body hemitter (fun rename h => (hrenamed rename h).1) hbody
  refine ⟨rendered, hrendered, fun u hu hhelper h => ?_⟩
  refine hmain code hresult _ hu.1 hu.2 (hkept _ hu.1 hu.2 (fun rename hrename heq => ?_) h)
  have hmem := (hrenamed rename hrename).2
  rw [String.toList_inj.mp heq] at hmem
  exact hhelper hmem

section Mentions

variable (generation : request.Generation) (hrenames : request.renames = none) {id : String}
  (hid : id ∈ (generation.scene.withRenames generation.plan).order) {scope : Scope}
  (hof : Scope.of? (generation.scene.withRenames generation.plan) id = some scope)
  {name : String} {parameter : Parameter} {hole : Template.Hole}
  (hmentions : scope.Mentions name parameter hole) {u : String} (hu : Helper.IsName u)
  (hfind : generation.scene.uniforms.find? (Uniform.key id name) = some u)

include hrenames hid hof hmentions hu hfind

/-- A uniform in the answer to a hole that stands free is declared. -/
lemma Generation.mem_lines_of_mentions {answer : String}
    (hanswer : (scope.resolver.fillHole hole).outcome = .ok answer)
    (hstands : HasWord u.toList none answer.toList)
    (hhelper : u ∉ scope.type.helperNames) (settings : Settings) (color : String) :
    (Uniform.declarationLine (parameter.type.uniformKeyword, u)).toList ∈
      lines (shaderText settings generation.uniformText generation.program color).toList := by
  obtain ⟨rendered, hrendered, hkept⟩ :=
    generation.exists_rendered hrenames hid hof hmentions.emitter
  have hmain :=
    hkept u hu hhelper (hmentions.hasWord_rendered hu.1 hu.2 hanswer hrendered hstands)
  have harray : parameter.type ≠ .array := by
    intro harray
    have hnumeric := hmentions.numeric
    rw [harray] at hnumeric
    simp at hnumeric
  exact generation.mem_lines_of_hasWord hof hmentions.declared harray hu hfind hmain settings
    color

/-- A hole that asks for a parameter with a uniform is answered with the uniform, unless a wire
overrides it. -/
lemma Generation.exists_answer
    (hmode : Uniform.isWired generation.scene.graph id name = false ∨
      scope.node.mode name (some parameter) ≠ .override) :
    ∃ answer, (scope.resolver.fillHole hole).outcome = .ok answer ∧
      HasWord u.toList none answer.toList := by
  obtain ⟨rendered, hrendered, -⟩ :=
    generation.exists_rendered hrenames hid hof hmentions.emitter
  obtain ⟨answer, hanswer⟩ := hmentions.exists_answer hrendered
  refine ⟨answer, hanswer,
    hmentions.hasWord_answer hu.1 hu.2 hanswer fun value hvalue => ?_⟩
  obtain ⟨node, type, hnode, -, rfl⟩ := Scope.of?_eq_some_iff.mp hof
  have hnodeId : node.id = id := Graph.id_of_node? hnode
  subst hnodeId
  exact Scope.hasWord_of_numericParameter
    (Uniform.nonempty?_eq_some_iff.mpr ⟨hfind, hu.ne_empty⟩) hmode hvalue

end Mentions

/-- With the compiler's own names for helpers, the uniforms that the shader of a request declares
for parameters are those that its code reads. -/
theorem uniformsClosed_of_compile {compiled : Compiled} (hrenames : request.renames = none)
    (hnames : ∀ table, request.uniforms = some table → ∀ u ∈ table.values, Helper.IsName u)
    (h : (compile request).outcome = .ok compiled) :
    ∃ generation : request.Generation,
      compiled.UniformsClosed (generation.scene.withRenames generation.plan)
        generation.program := by
  obtain ⟨generation, color, hshader, htable, -, hrecords⟩ := exists_products_of_compile h
  have hname : ∀ {id name u}, generation.scene.uniforms.find? (Uniform.key id name) = some u →
      Helper.IsName u := by
    intro id name u hfind
    exact generation.isName_of_mem_uniforms hnames
      (List.mem_map_of_mem (Table.mem_entries_of_find? hfind))
  refine ⟨generation, htable, ⟨generation.uniformText, color, ?_⟩, ?_, ?_, ?_⟩
  · rw [hshader, ← (isScene_of_scene generation.scene_eq).settings]
    rfl
  · intro id hid scope hof name parameter hole hmentions answer hanswer u hfind hstands hhelper
    rw [htable] at hfind
    rw [hshader]
    exact generation.mem_lines_of_mentions hrenames hid hof hmentions (hname hfind) hfind hanswer
      hstands hhelper request.settings color
  · intro id hid scope hof name parameter hole hmentions hmode u hfind
    rw [htable] at hfind
    exact generation.exists_answer hrenames hid hof hmentions (hname hfind) hfind hmode
  · intro record hrecord haudio
    rw [hrecords] at hrecord
    have hused := Uniform.mem_used_of_mem_records generation.records_eq hrecord haudio
    obtain ⟨hvalue, hoccurs⟩ := Uniform.mem_used_iff.mp hused
    have hu := generation.isName_of_mem_uniforms hnames hvalue
    exact (occursWhole_code_iff hu generation.program).mp hoccurs

/-- A type whose code hands its parameter to a helper that holds the parameter as well. -/
def weightedTint : NodeType where
  id := "tint"
  displayName := "Tint"
  category := "Color"
  inputs := []
  outputs := [⟨"out", .float, none⟩]
  parameters := Table.ofList [("strength", ⟨.float, .int 1, .null, .null, .null, none, none⟩)]
  mainCode := "$output.out = scale($param.strength);"
  functions := some "float scale(float x) \x7b return x * $param.strength; \x7d"
  description := ""

/-- The code of the type reads its parameter at a hole that stands free. -/
lemma mentions_weightedTint {scene : Scene} (h : scene.settings = {}) (node : Node) :
    Scope.Mentions ⟨scene, node, weightedTint⟩ "strength"
      ⟨.float, .int 1, .null, .null, .null, none, none⟩ (.plain (.param "strength")) := by
  have hfree : Template.StandsFree weightedTint.mainCode (.plain (.param "strength")) := by
    refine ⟨[.hole (.plain (.output "out")), .literal " = scale(".toList],
      [.literal ");".toList], by decide +kernel, ?_, ?_⟩
    · intro segment hsegment
      cases hsegment
      exact ⟨_, rfl, by decide⟩
    · intro segment hsegment
      cases hsegment
      exact ⟨_, rfl⟩
  refine ⟨?_, rfl, Or.inl rfl, Or.inl rfl, hfree⟩
  show weightedTint.emitter scene.settings = .template
  rw [h]
  decide

/-- Two nodes of that type, the second of which calls its helper by a new name. -/
def weightedTints : Request where
  graph :=
    { nodes := [⟨"a", "tint", Table.empty, Table.empty⟩, ⟨"b", "tint", Table.empty, Table.empty⟩]
      wires := [] }
  catalog := ⟨Table.ofList [("tint", weightedTint)]⟩
  settings := {}
  order := ["a", "b"]
  uniforms := none
  renames := none

/-- The code of the second node, in which a helper has a new name, reads a uniform that is
declared. -/
theorem uniformsClosed_of_compile_weightedTints :
    ∃ compiled, (compile weightedTints).outcome = .ok compiled ∧
      (compiled.renames.find? "b").map Table.entries = some [("scale", "scale_b")] ∧
      (∃ generation : weightedTints.Generation,
        compiled.UniformsClosed (generation.scene.withRenames generation.plan)
          generation.program) ∧
      "uniform float ubStrength;".toList ∈ lines compiled.shader.toList := by
  have hfound : ((compile weightedTints).outcome.toOption.map fun compiled =>
      ((compiled.renames.find? "b").map Table.entries,
        compiled.uniformNames.find? (Uniform.key "b" "strength"))) =
        some (some [("scale", "scale_b")], some "ubStrength") := by decide +kernel
  cases hcompiled : (compile weightedTints).outcome with
  | error fault =>
    rw [hcompiled] at hfound
    cases hfound
  | ok compiled =>
    rw [hcompiled] at hfound
    have hpair := Option.some.inj hfound
    have hnames : ∀ table, weightedTints.uniforms = some table →
        ∀ u ∈ table.values, Helper.IsName u := by
      intro table htable
      cases htable
    obtain ⟨generation, hclosed⟩ := uniformsClosed_of_compile rfl hnames hcompiled
    refine ⟨compiled, rfl, congrArg Prod.fst hpair, ⟨generation, hclosed⟩, ?_⟩
    have hscene := isScene_of_scene generation.scene_eq
    have hof : Scope.of? (generation.scene.withRenames generation.plan) "b" =
        some ⟨generation.scene.withRenames generation.plan,
          ⟨"b", "tint", Table.empty, Table.empty⟩, weightedTint⟩ := by
      refine Scope.of?_eq_some_iff.mpr ⟨_, _, ?_, ?_, rfl⟩
      · show generation.scene.graph.node? "b" = _
        rw [hscene.graph]
        rfl
      · show generation.scene.catalog.find? "tint" = _
        rw [hscene.catalog]
        rfl
    have hsettings : (generation.scene.withRenames generation.plan).settings = {} :=
      hscene.settings
    have hmentions := mentions_weightedTint hsettings ⟨"b", "tint", Table.empty, Table.empty⟩
    have hid : "b" ∈ (generation.scene.withRenames generation.plan).order := by
      show "b" ∈ generation.scene.order
      rw [hscene.order]
      decide
    have hwired : Uniform.isWired generation.scene.graph "b" "strength" = false := by
      rw [hscene.graph]
      rfl
    have hhelper : "ubStrength" ∉ weightedTint.helperNames := by decide +kernel
    have hu := congrArg Prod.snd hpair
    obtain ⟨answer, hanswer, hstands⟩ :=
      hclosed.supplied "b" hid _ hof _ _ _ hmentions (Or.inl hwired) "ubStrength" hu
    exact hclosed.declared "b" hid _ hof _ _ _ hmentions answer hanswer "ubStrength" hu hstands
      hhelper

end Request

end ShaderLoom
