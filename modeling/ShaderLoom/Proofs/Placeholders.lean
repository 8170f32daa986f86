import ShaderLoom.Proofs.Refusals
import ShaderLoom.Proofs.SceneNodes
import ShaderLoom.Proofs.Tables
import ShaderLoom.Template.References

/-!
# Which templates can be filled

A template can be filled exactly when every parameter that it mentions can be written.  A number
cannot be written when it is too large and neither a uniform nor a wire stands in for it.  Inputs
and outputs are always available, as long as no port is a truth.
-/

namespace ShaderLoom

/-! ### Filling in general -/

namespace Template

/-- Segments can be put together when each of their holes can be filled. -/
lemma succeedsIff_concat {α : Type} {fill : α → Traced String} {R : α → Prop}
    (h : ∀ hole, SucceedsIff (fill hole).outcome (R hole)) (segments : List (Segment α)) :
    SucceedsIff (concat fill segments).outcome (∀ hole ∈ holes segments, R hole) := by
  induction segments with
  | nil => exact SucceedsIff.of_ok rfl nofun
  | cons segment rest ih =>
    cases segment with
    | literal text =>
      have hconcat : SucceedsIff (concat fill (.literal text :: rest)).outcome
          (∀ hole ∈ holes rest, R hole) := by
        unfold concat
        rw [Traced.outcome_bind]
        exact ih.followed fun _ _ => ⟨_, rfl⟩
      exact hconcat
    | hole hole =>
      have hconcat : SucceedsIff (concat fill (.hole hole :: rest)).outcome
          (R hole ∧ ∀ hole ∈ holes rest, R hole) := by
        unfold concat
        rw [Traced.outcome_bind]
        refine (h hole).andThen fun _ _ => ?_
        rw [Traced.outcome_bind]
        exact ih.followed fun _ _ => ⟨_, rfl⟩
      exact hconcat.congr List.forall_mem_cons.symm

/-- What a placeholder needs, when parameters need `P` and all else can be filled anyway. -/
def Placeholder.Needs (P : String → Prop) : Placeholder → Prop
  | .param name => P name
  | _ => True

/-- A template can be filled when each parameter that it mentions can. -/
lemma succeedsIff_render {resolver : Resolver Traced} {P : String → Prop}
    (hinput : ∀ port, ∃ text, (resolver.input port).outcome = .ok text)
    (houtput : ∀ port, ∃ text, (resolver.output port).outcome = .ok text)
    (hparam : ∀ name index, SucceedsIff (resolver.param name index).outcome (P name))
    (hglobal : ∀ value, ∃ text, (resolver.global value).outcome = .ok text)
    (hresult : ∃ text, resolver.result.outcome = .ok text) (template : String) :
    SucceedsIff (render resolver template).outcome (∀ name ∈ params template, P name) := by
  have hfill : ∀ placeholder : Placeholder,
      SucceedsIff (resolver.fill placeholder).outcome (placeholder.Needs P) := by
    intro placeholder
    cases placeholder with
    | input port => exact SucceedsIff.of_ok (hinput port).choose_spec trivial
    | output port => exact SucceedsIff.of_ok (houtput port).choose_spec trivial
    | param name => exact hparam name none
    | global value => exact SucceedsIff.of_ok (hglobal value).choose_spec trivial
    | result => exact SucceedsIff.of_ok hresult.choose_spec trivial
  have hhole : ∀ hole : Hole, SucceedsIff (resolver.fillHole hole).outcome
      (∀ placeholder ∈ hole.placeholders, placeholder.Needs P) := by
    intro hole
    cases hole with
    | plain placeholder =>
      refine (hfill placeholder).congr ?_
      unfold Hole.placeholders
      rw [List.forall_mem_singleton]
    | element name index =>
      -- the index is filled first, and then the parameter is asked for
      unfold Resolver.fillHole
      rw [Traced.outcome_bind]
      refine ((succeedsIff_concat hfill (indexSegments index)).andThen fun text _ =>
        hparam name (some text)).congr ?_
      unfold Hole.placeholders
      rw [List.forall_mem_cons, and_comm]
      rfl
  refine (succeedsIff_concat hhole (segments template)).congr ?_
  unfold params placeholders
  constructor
  · intro h name hname
    obtain ⟨placeholder, hmem, hparam⟩ := List.mem_filterMap.mp (Text.mem_sortedSet.mp hname)
    obtain ⟨hole, hhole, hmem⟩ := List.mem_flatMap.mp hmem
    have hneeds := h hole hhole placeholder hmem
    cases placeholder with
    | param other =>
      cases hparam
      exact hneeds
    | _ => cases hparam
  · intro h hole hhole placeholder hmem
    cases placeholder with
    | param name =>
      refine h name (Text.mem_sortedSet.mpr (List.mem_filterMap.mpr ⟨.param name, ?_, rfl⟩))
      exact List.mem_flatMap.mpr ⟨hole, hhole, hmem⟩
    | _ => exact trivial

end Template

/-! ### Safe node types -/

/-- Whether a node type cannot stop a compilation by itself: none of its ports is a truth, and its
own bands can be read. -/
def NodeType.isSafe (type : NodeType) : Bool :=
  type.inputs.all (fun port => port.type != .bool)
    && type.outputs.all (fun port => port.type != .bool) && !type.refusesBands

/-- The node types and the settings cannot stop a compilation by themselves. -/
structure Catalog.Safe (catalog : Catalog) (settings : Settings) : Prop where
  types : ∀ id type, catalog.find? id = some type → type.isSafe = true
  bands : ∃ grid, settings.defaultBands.toGrid = .ok grid
  places : ∃ count, Literal.usablePlaces settings.arrayPlaces = .ok count

/-- The scope of a node among safe node types. -/
structure Scope.Safe (scope : Scope) : Prop where
  catalog : scope.scene.catalog.Safe scope.scene.settings
  type : scope.type.isSafe = true

namespace NodeType

variable {type : NodeType}

/-- A safe type has no input for truths. -/
lemma input_ne_bool (h : type.isSafe = true) {name : String} {port : Port}
    (hport : type.input? name = some port) : port.type ≠ .bool := by
  unfold isSafe at h
  simp only [Bool.and_eq_true, List.all_eq_true, bne_iff_ne] at h
  exact h.1.1 port (List.mem_of_find?_eq_some hport)

lemma output_ne_bool (h : type.isSafe = true) {name : String} {port : Port}
    (hport : type.output? name = some port) : port.type ≠ .bool := by
  unfold isSafe at h
  simp only [Bool.and_eq_true, List.all_eq_true, bne_iff_ne] at h
  exact h.1.2 port (List.mem_of_find?_eq_some hport)

/-- A safe type has bands that can be read. -/
lemma refusesBands_of_isSafe (h : type.isSafe = true) : type.refusesBands = false := by
  unfold isSafe at h
  simp only [Bool.and_eq_true, Bool.not_eq_true'] at h
  exact h.2

/-- Whatever comes out of a safe type is no truth. -/
lemma outputType_ne_bool (h : type.isSafe = true) (name : String) :
    type.outputType name ≠ .bool := by
  unfold outputType
  cases hport : type.output? name with
  | none => exact nofun
  | some port => exact output_ne_bool h hport

end NodeType

namespace Conversion

/-- Conversions between other types than truths succeed. -/
lemma exists_convert {source target : PortType} (hsource : source ≠ .bool)
    (htarget : target ≠ .bool) (node : Option String) (expr : String) :
    ∃ text, convert node expr source target = .ok text := by
  cases source <;> cases target <;> simp_all [convert]

lemma exists_toParameter {type : PortType} (h : type ≠ .bool) (node : Option String)
    (expr : String) : ∃ text, toParameter node expr type = .ok text := by
  cases type with
  | bool => contradiction
  | _ => exact ⟨_, rfl⟩

lemma exists_toColor {type : PortType} (h : type ≠ .bool) (expr : String) :
    ∃ text, toColor expr type = .ok text := by
  cases type with
  | bool => contradiction
  | _ => exact ⟨_, rfl⟩

end Conversion

namespace Scope

variable {scene : Scene} {scope : Scope}

/-- The scopes of a scene are safe, if its catalog is. -/
lemma safe_of_of? (h : scene.catalog.Safe scene.settings) {id : String}
    (hof : of? scene id = some scope) : scope.Safe := by
  obtain ⟨node, type, hnode, htype, rfl⟩ := of?_eq_some_iff.mp hof
  exact ⟨h, h.types node.type type htype⟩

/-- Wires in a safe scene carry no truths. -/
lemma sourceType?_ne_bool (h : scene.catalog.Safe scene.settings) {id port : String}
    {type : NodeType} (htype : scene.typeOf? id = some type) {portType : PortType}
    (hport : sourceType? scene id type port = some portType) : portType ≠ .bool := by
  obtain ⟨node, -, hfind⟩ := Option.bind_eq_some_iff.mp htype
  unfold sourceType? at hport
  split at hport
  · next output houtput =>
    cases hport
    exact NodeType.output_ne_bool (h.types node.type type hfind) houtput
  · split at hport
    · cases hport
      exact nofun
    · cases hport

/-! ### Inputs and outputs -/

/-- In a safe scope a wire into an input does not fail. -/
lemma exists_addInput (h : scope.Safe) (resolved : Table String) (wire : Wire) (port : String) :
    ∃ table, (scope.addInput resolved wire port).outcome = .ok table := by
  unfold addInput
  dsimp only
  split
  · exact ⟨_, rfl⟩
  next input hinput =>
  split
  · exact ⟨_, rfl⟩
  next sourceType htype =>
  split
  · exact ⟨_, rfl⟩
  next type hport =>
  split
  · exact ⟨_, rfl⟩
  next name _ =>
  have hsource : type ≠ .bool := sourceType?_ne_bool h.catalog htype hport
  obtain ⟨expr, hexpr⟩ := Conversion.exists_convert hsource
    (NodeType.input_ne_bool h.type hinput) (some scope.node.id) name
  refine ⟨resolved.insert port expr, ?_⟩
  simp only [Traced.outcome_bind, Traced.outcome_remarkIf, Traced.outcome_liftM, hexpr]
  rfl

/-- Every input has an expression. -/
lemma exists_inputs (h : scope.Safe) : ∃ table, scope.inputs.outcome = .ok table := by
  have hwired : ∃ wired, ((scope.scene.graph.dataWires scope.node.id).foldlM
      (fun resolved (wire, port) => scope.addInput resolved wire port) Table.empty).outcome =
        .ok wired := by
    rw [Traced.outcome_foldlM]
    exact exists_foldlM_eq_ok (fun resolved item _ => exists_addInput h resolved item.1 item.2)
      Table.empty
  obtain ⟨wired, hwired⟩ := hwired
  unfold inputs
  rw [Traced.outcome_bind, hwired]
  show ∃ table,
    (if scope.isSelfSufficient then _ else _ : Traced (Table String)).outcome = .ok table
  split
  · exact ⟨_, rfl⟩
  · exact ⟨_, rfl⟩

/-- In a safe scope an input does not fail. -/
lemma exists_input (h : scope.Safe) (port : String) :
    ∃ text, (scope.input port).outcome = .ok text := by
  obtain ⟨table, htable⟩ := exists_inputs h
  unfold input readInput
  rw [Traced.outcome_bind, htable, ok_bind]
  cases table.find? port with
  | some expr => exact ⟨_, rfl⟩
  | none => exact ⟨_, rfl⟩

/-- The variable that an output is written to. -/
def writtenVariable (scope : Scope) (port : String) : String :=
  (scope.scene.variableNames.lookup scope.node.id port).getD
    (Identifier.outputVariable scope.node.id port)

/-- An output stands for the variable that is written. -/
lemma outcome_output (scope : Scope) (port : String) :
    (scope.output port).outcome = .ok (scope.writtenVariable port) := by
  unfold output writtenVariable
  cases scope.scene.variableNames.lookup scope.node.id port with
  | some name => rfl
  | none => rfl

lemma exists_output (scope : Scope) (port : String) :
    ∃ text, (scope.output port).outcome = .ok text :=
  ⟨_, scope.outcome_output port⟩

/-! ### Parameter wires -/

/-- Whether a wire drives a parameter of the node: the parameter is a float, the source is a known
output, and its node runs before. -/
def drives (scope : Scope) (wire : Wire) (parameter : String) : Bool :=
  (scope.type.parameter? parameter).map Parameter.type == some .float
    && ((scope.scene.typeOf? wire.source).bind fun type =>
      sourceType? scope.scene wire.source type wire.sourcePort).isSome
    && (scope.scene.position? wire.source).any (· < scope.deadline)

/-- Whether a wire drives the parameter called `name`. -/
def isDriven (scope : Scope) (name : String) : Bool :=
  (scope.scene.graph.parameterWires scope.node.id).any fun (wire, parameter) =>
    parameter == name && scope.drives wire parameter

/-- The variable that a parameter wire reads: that of its source, or what it would be called. -/
def variableOf (scope : Scope) (wire : Wire) : String :=
  (scope.scene.variableNames.lookup wire.source wire.sourcePort).getD
    (Identifier.outputVariable wire.source wire.sourcePort)

/-- The variable that a wire reads is found even if it has to be made up. -/
lemma outcome_sourceVariable (scope : Scope) (wire : Wire) :
    (scope.sourceVariable wire).outcome = .ok (scope.variableOf wire) := by
  unfold sourceVariable variableOf
  cases scope.scene.variableNames.lookup wire.source wire.sourcePort <;> rfl

/-- The parameters that are driven after one more wire. -/
lemma exists_addParameterWire (h : scope.Safe) (chosen : Table (Nat × String)) (wire : Wire)
    (parameter : String) :
    ∃ table, (scope.addParameterWire chosen wire parameter).outcome = .ok table ∧
      ∀ name, (table.find? name).isSome =
        ((chosen.find? name).isSome || (parameter == name && scope.drives wire parameter)) := by
  have hskip : scope.drives wire parameter = false → ∀ name, (chosen.find? name).isSome =
      ((chosen.find? name).isSome || (parameter == name && scope.drives wire parameter)) := by
    intro hdrives name
    rw [hdrives, Bool.and_false, Bool.or_false]
  unfold addParameterWire
  dsimp only
  split
  · next hfloat => exact ⟨chosen, rfl, hskip (by simp [drives, hfloat])⟩
  next hfloat =>
  split
  · next htype => exact ⟨chosen, rfl, hskip (by simp [drives, htype])⟩
  next sourceType htype =>
  split
  · next hport => exact ⟨chosen, rfl, hskip (by simp [drives, htype, hport])⟩
  next type hport =>
  split
  · next hposition => exact ⟨chosen, rfl, hskip (by simp [drives, hposition])⟩
  next position hposition =>
  split
  · next hlate => exact ⟨chosen, rfl, hskip (by simp [drives, hposition, hlate])⟩
  next hearly =>
  have hdrives : scope.drives wire parameter = true := by
    simp only [not_not] at hfloat
    simp [drives, hfloat, htype, hport, hposition, Nat.lt_of_not_le hearly]
  split
  · next hchosen =>
    refine ⟨chosen, rfl, fun name => ?_⟩
    by_cases hname : parameter = name
    · subst hname
      cases hfind : chosen.find? parameter with
      | none =>
        rw [hfind] at hchosen
        cases hchosen
      | some entry => rfl
    · rw [beq_false_of_ne hname, Bool.false_and, Bool.or_false]
  · obtain ⟨expr, hexpr⟩ := Conversion.exists_toParameter
      (sourceType?_ne_bool h.catalog htype hport) (some scope.node.id) (scope.variableOf wire)
    refine ⟨chosen.insert parameter (position, expr), ?_, fun other => ?_⟩
    · simp only [Traced.outcome_bind, Traced.outcome_liftM, outcome_sourceVariable]
      show (Conversion.toParameter _ _ _ >>= _) = _
      rw [hexpr]
      rfl
    · rw [Table.find?_insert, hdrives, Bool.and_true]
      by_cases hother : parameter = other
      · simp [hother]
      · simp [hother]

/-- The wires into parameters are resolved, and every driven parameter has one. -/
lemma exists_parameterWires (h : scope.Safe) :
    ∃ table, scope.parameterWires.outcome = .ok table ∧
      ∀ name, (table.find? name).isSome = scope.isDriven name := by
  have hfold : ∀ (wires : List (Wire × String)) (start : Table (Nat × String)),
      ∃ chosen, (wires.foldlM (fun chosen (wire, parameter) =>
        scope.addParameterWire chosen wire parameter) start).outcome = .ok chosen ∧
        ∀ name, (chosen.find? name).isSome = ((start.find? name).isSome ||
          wires.any fun (wire, parameter) => parameter == name && scope.drives wire parameter) := by
    intro wires
    induction wires with
    | nil => exact fun start => ⟨start, rfl, fun name => by simp⟩
    | cons item rest ih =>
      intro start
      obtain ⟨next, hnext, hstep⟩ := exists_addParameterWire h start item.1 item.2
      obtain ⟨chosen, hchosen, hrun⟩ := ih next
      refine ⟨chosen, ?_, fun name => ?_⟩
      · rw [List.foldlM_cons, Traced.outcome_bind, hnext]
        exact hchosen
      · rw [hrun, hstep, List.any_cons, Bool.or_assoc]
  obtain ⟨chosen, hchosen, hdriven⟩ :=
    hfold (scope.scene.graph.parameterWires scope.node.id) Table.empty
  refine ⟨chosen.map Prod.snd, ?_, fun name => ?_⟩
  · unfold parameterWires
    rw [Traced.outcome_bind, hchosen]
    rfl
  · rw [Table.find?_map, Option.isSome_map, hdriven]
    rfl

/-! ### Parameters -/

/-- Whether a parameter that is a number cannot be written: it is too large, it has no uniform, and
no wire replaces it. -/
def refusesNumber (scope : Scope) (name : String) (parameter : Parameter) : Bool :=
  parameter.type.refuses (scope.node.settledValue name parameter)
    && (scope.scene.uniform? scope.node.id name).isNone
    && !(scope.isDriven name && scope.node.mode name (some parameter) == .override)

/-- Whether a parameter that the node type does not declare cannot be written: its value is an
integer with too many digits. -/
def refusesUndeclared (scope : Scope) (name : String) : Bool :=
  match scope.node.value? name with
  | some (.int i) => decide (maxDigits < Decimal.digitCount i.natAbs)
  | _ => false

/-- Whether a parameter cannot be written. -/
def refuses (scope : Scope) (name : String) : Bool :=
  match scope.type.parameter? name with
  | none => scope.refusesUndeclared name
  | some parameter =>
    match parameter.type with
    | .array => scope.refusesArrays
    | .string => false
    | .float | .int | .vec4 => scope.refusesNumber name parameter

/-- Whether a template mentions a parameter that cannot be written. -/
def refusesTemplate (scope : Scope) (template : String) : Bool :=
  (Template.params template).any scope.refuses

/-- The mode of a parameter is found even if it is not known. -/
lemma outcome_modeOf (scope : Scope) (name : String) (parameter : Parameter) :
    (scope.modeOf name parameter).outcome = .ok (scope.node.mode name (some parameter)) := by
  unfold modeOf
  dsimp only
  split
  · rfl
  · rfl

/-- The uniform of a parameter, else its literal. -/
lemma succeedsIff_joinedValue (name : String) (parameter : Parameter) (mode : WireMode) :
    SucceedsIff (scope.joinedValue name parameter mode).outcome
      ((parameter.type.refuses (scope.node.settledValue name parameter)
        && (scope.scene.uniform? scope.node.id name).isNone) = false) := by
  unfold joinedValue
  cases scope.scene.uniform? scope.node.id name with
  | some uniform => exact SucceedsIff.of_ok rfl (by simp)
  | none => exact (succeedsIff_literal name parameter).congr (by simp)

/-- A parameter with numbers in it succeeds unless a number is refused. -/
lemma succeedsIff_numericParameter (h : scope.Safe) (name : String) (parameter : Parameter) :
    SucceedsIff (scope.numericParameter name parameter).outcome
      (scope.refusesNumber name parameter = false) := by
  obtain ⟨wires, hwires, hdriven⟩ := exists_parameterWires h
  unfold numericParameter readNumber refusesNumber
  rw [Traced.outcome_bind]
  refine SucceedsIff.preceded hwires ?_
  rw [← hdriven name]
  cases wires.find? name with
  | some wire =>
    dsimp only
    rw [Traced.outcome_bind]
    refine SucceedsIff.preceded (outcome_modeOf scope name parameter) ?_
    by_cases hmode : scope.node.mode name (some parameter) = .override
    · rw [if_pos hmode]
      exact SucceedsIff.of_ok rfl (by simp [hmode])
    · rw [if_neg hmode, Traced.outcome_bind]
      refine ((succeedsIff_joinedValue name parameter _).followed fun _ _ => ⟨_, rfl⟩).congr ?_
      rw [beq_false_of_ne hmode, Bool.and_false, Bool.not_false, Bool.and_true]
  | none =>
    dsimp only
    cases scope.scene.uniform? scope.node.id name with
    | some uniform => exact SucceedsIff.of_ok rfl (by simp)
    | none => exact (succeedsIff_literal name parameter).congr (by simp)

/-- An array succeeds unless an entry is refused. -/
lemma succeedsIff_arrayParameter (name : String) (index : Option String) :
    SucceedsIff (scope.arrayParameter name index).outcome (scope.refusesArrays = false) := by
  unfold arrayParameter readArray
  rw [Traced.outcome_bind]
  refine succeedsIff_arrays.followed fun arrays _ => ?_
  dsimp only
  split
  · exact ⟨_, rfl⟩
  · exact ⟨_, rfl⟩
  · exact ⟨_, rfl⟩

/-- A parameter without a declaration can be written unless its value is a long integer, which is
the only fault. -/
lemma undeclaredParameter_cases (scope : Scope) (name : String) :
    (scope.refusesUndeclared name = false ∧
        ∃ text, (scope.undeclaredParameter name).outcome = .ok text) ∨
      (scope.refusesUndeclared name = true ∧
        (scope.undeclaredParameter name).outcome = .error (.unwritable .tooManyDigits)) := by
  unfold undeclaredParameter refusesUndeclared
  rw [Traced.outcome_bind, Traced.outcome_remark, ok_bind]
  cases scope.node.value? name with
  | none => exact Or.inl ⟨rfl, _, rfl⟩
  | some value =>
    cases value with
    | int i =>
      dsimp only
      rw [Traced.outcome_liftM]
      rcases writtenInt_cases i with ⟨hdigits, hwritten⟩ | ⟨hdigits, hwritten⟩
      · refine Or.inl ⟨decide_eq_false (Nat.not_lt.mpr hdigits), decimalText i, ?_⟩
        rw [hwritten]
        rfl
      · refine Or.inr ⟨decide_eq_true hdigits, ?_⟩
        rw [hwritten]
        rfl
    | _ => exact Or.inl ⟨rfl, _, rfl⟩

/-- A parameter can be written unless it is refused. -/
lemma succeedsIff_param (h : scope.Safe) (name : String) (index : Option String) :
    SucceedsIff (scope.param name index).outcome (scope.refuses name = false) := by
  unfold param refuses
  cases scope.type.parameter? name with
  | none =>
    rcases undeclaredParameter_cases scope name with ⟨hrefuses, text, htext⟩ | ⟨hrefuses, hfault⟩
    · exact SucceedsIff.of_ok htext hrefuses
    · exact SucceedsIff.of_error hfault rfl (by simp [hrefuses])
  | some parameter =>
    dsimp only
    cases parameter.type with
    | array => exact succeedsIff_arrayParameter name index
    | string => exact SucceedsIff.of_ok rfl (by simp)
    | float | int | vec4 =>
      dsimp only
      rw [Traced.outcome_bind]
      refine (succeedsIff_numericParameter h name parameter).followed fun expr _ => ?_
      cases index with
      | none => exact ⟨_, rfl⟩
      | some index => exact ⟨_, rfl⟩

/-- A template of the node can be filled unless it mentions a parameter that is refused. -/
theorem succeedsIff_render (h : scope.Safe) (template : String) :
    SucceedsIff (scope.render template).outcome (scope.refusesTemplate template = false) := by
  have hrender : SucceedsIff (scope.render template).outcome
      (∀ name ∈ Template.params template, scope.refuses name = false) :=
    Template.succeedsIff_render (exists_input h) (exists_output scope) (succeedsIff_param h)
      (fun _ => ⟨_, rfl⟩) ⟨_, rfl⟩ template
  refine hrender.congr ?_
  unfold refusesTemplate
  rw [List.any_eq_false]
  simp only [Bool.not_eq_true]

end Scope

end ShaderLoom
