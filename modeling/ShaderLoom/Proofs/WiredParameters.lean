import ShaderLoom.Proofs.Notices
import ShaderLoom.Proofs.UniformClosure

/-!
# Wired parameters and their uniforms

Whether a parameter has a uniform is decided from the graph alone: it has none when some wire leads
into it and its mode is to be overridden.  What the parameter stands for in code is decided later,
from the wire that is left when wires of unknown sources, of sources that run too late and into
parameters that are no floats are passed over.  The two decisions fit together.  A uniform that is
to be joined with a wire is there; a parameter that is overridden needs none; and where all wires
are passed over although they would override, the value of the parameter is written out.
-/

namespace ShaderLoom

/-! ### Remarks -/

namespace Scope

variable {scope : Scope} {name : String} {parameter : Parameter}

/-- The remark that there is no uniform to join with a wire. -/
def missingUniform (scope : Scope) (name : String) (mode : WireMode) : Remark :=
  ⟨.generation, "No uniform for " ++ scope.node.id ++ "." ++ name ++ " in '" ++ mode.keyword
    ++ "' mode; using its literal value"⟩

/-- A remark that does not begin like one on a missing uniform. -/
def SaysOther (remark : Remark) : Prop :=
  "No uniform for ".toList.isPrefixOf remark.message.toList = false

/-- A remark on something else is not the one on a missing uniform. -/
lemma missingUniform_ne (mode : WireMode) {remark : Remark} (h : SaysOther remark) :
    remark ≠ scope.missingUniform name mode := by
  rintro rfl
  have hstart : "No uniform for ".toList.isPrefixOf
      (scope.missingUniform name mode).message.toList = true := by
    simp only [missingUniform, String.toList_append, List.append_assoc]
    exact List.isPrefixOf_iff_prefix.mpr (List.prefix_append _ _)
  unfold SaysOther at h
  rw [hstart] at h
  cases h

/-- A remark with a known opening is not about a missing uniform. -/
lemma saysOther_of_opens {remark : Remark} (h : Opens remark.message) : SaysOther remark :=
  Bool.eq_false_iff.mpr fun hstart =>
    h.not_prefix (by decide) (List.isPrefixOf_iff_prefix.mp hstart)

/-- Resolving the wires into parameters makes no remark on uniforms. -/
lemma saysOther_of_mem_parameterWires {remark : Remark}
    (h : remark ∈ scope.parameterWires.remarks) : SaysOther remark :=
  saysOther_of_opens (scope.opens_parameterWires remark h)

lemma saysOther_of_mem_modeOf {remark : Remark}
    (h : remark ∈ (scope.modeOf name parameter).remarks) : SaysOther remark :=
  saysOther_of_opens (scope.opens_modeOf name parameter remark h)

end Scope

/-! ### Which parameters have uniforms -/

namespace Uniform

variable {graph : Graph} {settings : Settings} {node : Node} {type : NodeType} {name : String}
  {parameter : Parameter}

/-- Whether all that a parameter stands for comes from wires, as far as the graph tells. -/
def isOverridden (graph : Graph) (node : Node) (name : String) (parameter : Parameter) : Bool :=
  isWired graph node.id name && node.mode name (some parameter) == .override

/-- A parameter is not overridden when no wire leads into it or its mode is another. -/
lemma isOverridden_eq_false_iff : isOverridden graph node name parameter = false ↔
    isWired graph node.id name = false ∨ node.mode name (some parameter) ≠ .override := by
  unfold isOverridden
  rw [Bool.and_eq_false_iff, beq_eq_false_iff_ne]

/-- Outside of audio nodes, a number or vector has a uniform unless it is overridden. -/
lemma hasUniform_eq_not_isOverridden (hcategory : type.category ≠ settings.audioCategory)
    (hnumeric : parameter.type = .float ∨ parameter.type = .int ∨ parameter.type = .vec4) :
    hasUniform graph settings node type name parameter =
      !isOverridden graph node name parameter := by
  have hhost : isHostParameter type settings name = false := by
    unfold isHostParameter
    rw [beq_eq_false_iff_ne.mpr hcategory, Bool.false_and]
  unfold hasUniform isOverridden
  rw [hhost]
  rcases hnumeric with h | h | h <;> rw [h] <;> rfl

/-- The names of a node with uniforms are those of its parameters that have one, when it measures
nothing. -/
lemma exists_namesOf (hcategory : type.category ≠ settings.audioCategory)
    (hkeys : type.parameters.keys.Nodup) (hparameter : type.parameter? name = some parameter) :
    ∃ names, namesOf graph settings node type = .ok names ∧
      (name ∈ names ↔ hasUniform graph settings node type name parameter = true) := by
  have hnames : namesOf graph settings node type = .ok ([] ++
      (type.parameters.entries.filter fun entry =>
        hasUniform graph settings node type entry.1 entry.2).map Prod.fst) := by
    unfold namesOf audioOutputs
    rw [if_neg hcategory]
    rfl
  refine ⟨_, hnames, ?_⟩
  rw [List.nil_append, List.mem_map]
  constructor
  · rintro ⟨⟨other, parameter'⟩, hentry, rfl⟩
    obtain ⟨hentry, huniform⟩ := List.mem_filter.mp hentry
    -- a name stands for one parameter only
    have hsame : parameter = parameter' :=
      Option.some.inj (hparameter.symm.trans ((Table.mem_entries_iff hkeys).mp hentry))
    rw [hsame]
    exact huniform
  · intro huniform
    exact ⟨(name, parameter),
      List.mem_filter.mpr ⟨Table.mem_entries_of_find? hparameter, huniform⟩, rfl⟩

end Uniform

namespace Scene

variable {scene : Scene}

/-- The uniforms of a scene were allocated for its own graph, ids of nodes differ, and keys of
uniforms can be read. -/
structure Supplied (scene : Scene) : Prop where
  ids : (scene.graph.nodes.map Node.id).Nodup
  dots : scene.catalog.DotFree
  /-- Parameters of one type have different names. -/
  parameters : ∀ id type, scene.catalog.find? id = some type → type.parameters.keys.Nodup
  allocated : Uniform.allocate scene.graph scene.catalog scene.settings = .ok scene.uniforms

/-- A number or vector of a node that is no audio node. -/
structure HasNumber (scene : Scene) (node : Node) (type : NodeType) (name : String)
    (parameter : Parameter) : Prop where
  mem : node ∈ scene.graph.nodes
  known : scene.catalog.find? node.type = some type
  category : type.category ≠ scene.settings.audioCategory
  declared : type.parameter? name = some parameter
  numeric : parameter.type = .float ∨ parameter.type = .int ∨ parameter.type = .vec4

/-- The uniform of a number or vector is the one made from its node and its name; there is none
exactly when the parameter is overridden. -/
lemma Supplied.uniform?_eq (h : scene.Supplied) {node : Node} {type : NodeType} {name : String}
    {parameter : Parameter} (hnumber : scene.HasNumber node type name parameter) :
    scene.uniform? node.id name =
      if Uniform.isOverridden scene.graph node name parameter then none
      else some (Identifier.uniform node.id name) := by
  have hkeys := h.parameters node.type type hnumber.known
  have hdot : '.' ∉ name.toList := (h.dots node.type type hnumber.known).2 name
    (List.mem_map_of_mem (Table.mem_entries_of_find? hnumber.declared))
  obtain ⟨names, hnames, hmem⟩ : ∃ names,
      Uniform.namesOf scene.graph scene.settings node type = .ok names ∧ (name ∈ names ↔
        Uniform.hasUniform scene.graph scene.settings node type name parameter = true) :=
    Uniform.exists_namesOf hnumber.category hkeys hnumber.declared
  rw [Uniform.hasUniform_eq_not_isOverridden hnumber.category hnumber.numeric] at hmem
  unfold Scene.uniform?
  cases hover : Uniform.isOverridden scene.graph node name parameter with
  | false =>
    have hplace : Uniform.IsPlace scene.graph scene.catalog scene.settings node.id name := by
      refine ⟨node, hnumber.mem, rfl, type, hnumber.known, names, hnames, hmem.mpr ?_⟩
      rw [hover]
      rfl
    have hfind := (Uniform.find?_allocate_iff h.dots h.allocated).mpr
      ⟨node.id, name, hplace, rfl, rfl⟩
    rw [if_neg Bool.false_ne_true]
    exact Uniform.nonempty?_eq_some_iff.mpr
      ⟨hfind, (Identifier.isName_uniform node.id name).ne_empty⟩
  | true =>
    rw [if_pos rfl]
    cases hfind : scene.uniforms.find? (Uniform.key node.id name) with
    | none => rfl
    | some u =>
      -- whatever has this key is this very parameter
      obtain ⟨id, name', hplace, hkey, -⟩ :=
        (Uniform.find?_allocate_iff h.dots h.allocated).mp hfind
      obtain ⟨rfl, rfl⟩ :=
        Uniform.key_injective hdot (Uniform.dot_not_mem_of_isPlace h.dots hplace) hkey
      obtain ⟨node', hnode', hid, type', htype', names', hnames', hname'⟩ := hplace
      have hsame := List.inj_on_of_nodup_map h.ids hnode' hnumber.mem hid
      subst hsame
      have htypes := Option.some.inj (htype'.symm.trans hnumber.known)
      subst htypes
      rw [hnames] at hnames'
      cases hnames'
      rw [hover] at hmem
      cases hmem.mp hname'

end Scene

/-! ### What parameters stand for -/

namespace Scope

variable {scope : Scope} {name : String} {parameter : Parameter}

/-- What a parameter stands for, by the wire that is left for it and by the mode of its wires. -/
structure Settled (scope : Scope) (name : String) (parameter : Parameter) : Prop where
  /-- A wire that overrides is all that the parameter stands for. -/
  overridden : ∀ wires wire, scope.parameterWires.outcome = .ok wires →
    wires.find? name = some wire → scope.node.mode name (some parameter) = .override →
      (scope.param name none).outcome = .ok wire
  /-- Any other wire is joined with the uniform. -/
  joined : ∀ wires wire, scope.parameterWires.outcome = .ok wires →
    wires.find? name = some wire → scope.node.mode name (some parameter) ≠ .override →
      (scope.param name none).outcome = .ok ("(" ++ Identifier.uniform scope.node.id name ++ " "
        ++ (scope.node.mode name (some parameter)).operator ++ " " ++ wire ++ ")")
  /-- Without a wire the uniform stands alone, unless a wire that was passed over overrides. -/
  alone : ∀ wires, scope.parameterWires.outcome = .ok wires → wires.find? name = none →
    (Uniform.isWired scope.scene.graph scope.node.id name = false ∨
      scope.node.mode name (some parameter) ≠ .override) →
      (scope.param name none).outcome = .ok (Identifier.uniform scope.node.id name)
  /-- In the case that is left, the value is written out. -/
  written : ∀ wires, scope.parameterWires.outcome = .ok wires → wires.find? name = none →
    Uniform.isWired scope.scene.graph scope.node.id name = true →
    scope.node.mode name (some parameter) = .override →
      (scope.param name none).outcome = scope.literal name parameter
  /-- A wire that cannot be converted leaves nothing to stand for. -/
  refused : ∀ fault, scope.parameterWires.outcome = .error fault →
    (scope.param name none).outcome = .error fault
  /-- No uniform is missed. -/
  silent : ∀ mode, scope.missingUniform name mode ∉ (scope.param name none).remarks

section Numeric

variable (hdeclared : scope.type.parameter? name = some parameter)
  (hnumeric : parameter.type = .float ∨ parameter.type = .int ∨ parameter.type = .vec4)

include hdeclared hnumeric

/-- A parameter with a wire stands for the wire, or for its value joined with the wire. -/
lemma outcome_param_of_wire {wires : Table String} {wire : String}
    (hwires : scope.parameterWires.outcome = .ok wires) (hfind : wires.find? name = some wire) :
    (scope.param name none).outcome =
      if scope.node.mode name (some parameter) = .override then .ok wire
      else (scope.joinedValue name parameter (scope.node.mode name (some parameter))).outcome >>=
        fun value => .ok ("(" ++ value ++ " " ++ (scope.node.mode name (some parameter)).operator
          ++ " " ++ wire ++ ")") := by
  rw [param_none_of_numeric hdeclared hnumeric]
  unfold numericParameter readNumber
  rw [Traced.outcome_bind, hwires, ok_bind, hfind]
  dsimp only
  rw [Traced.outcome_bind, outcome_modeOf, ok_bind]
  split
  · rfl
  · rw [Traced.outcome_bind]
    rfl

/-- A parameter without a wire stands for its uniform, else for its value. -/
lemma outcome_param_of_no_wire {wires : Table String}
    (hwires : scope.parameterWires.outcome = .ok wires) (hfind : wires.find? name = none) :
    (scope.param name none).outcome =
      (scope.scene.uniform? scope.node.id name).elim (scope.literal name parameter) .ok := by
  rw [param_none_of_numeric hdeclared hnumeric]
  unfold numericParameter readNumber
  rw [Traced.outcome_bind, hwires, ok_bind, hfind]
  dsimp only
  cases scope.scene.uniform? scope.node.id name with
  | some uniform => rfl
  | none => rfl

/-- A remark on a parameter is made on its wires, on its mode, or on its value where that is joined
with a wire. -/
lemma mem_remarks_param {remark : Remark} (h : remark ∈ (scope.param name none).remarks) :
    remark ∈ scope.parameterWires.remarks ∨ remark ∈ (scope.modeOf name parameter).remarks ∨
      ∃ wires wire, scope.parameterWires.outcome = .ok wires ∧ wires.find? name = some wire ∧
        scope.node.mode name (some parameter) ≠ .override ∧
        remark ∈
          (scope.joinedValue name parameter (scope.node.mode name (some parameter))).remarks := by
  rw [param_none_of_numeric hdeclared hnumeric] at h
  unfold numericParameter readNumber at h
  rw [Traced.mem_remarks_bind] at h
  rcases h with h | ⟨wires, hwires, h⟩
  · exact Or.inl h
  cases hfind : wires.find? name with
  | none =>
    rw [hfind] at h
    dsimp only at h
    cases huniform : scope.scene.uniform? scope.node.id name with
    | some uniform =>
      rw [huniform] at h
      cases h
    | none =>
      rw [huniform] at h
      cases h
  | some wire =>
    rw [hfind] at h
    dsimp only at h
    rw [Traced.mem_remarks_bind] at h
    rcases h with h | ⟨mode, hmode, h⟩
    · exact Or.inr (Or.inl h)
    rw [outcome_modeOf] at hmode
    cases hmode
    split at h
    · cases h
    · next hover =>
      rw [Traced.mem_remarks_bind] at h
      rcases h with h | ⟨value, -, h⟩
      · exact Or.inr (Or.inr ⟨wires, wire, hwires, hfind, hover, h⟩)
      · cases h

end Numeric

/-- The table of uniforms and the code that reads it agree on every number and vector. -/
theorem settled_of_supplied {scene : Scene} (h : scene.Supplied) {node : Node} {type : NodeType}
    {name : String} {parameter : Parameter} (hnumber : scene.HasNumber node type name parameter) :
    Settled { scene, node, type } name parameter := by
  have hdeclared := hnumber.declared
  have hnumeric := hnumber.numeric
  have huniform := h.uniform?_eq hnumber
  -- a parameter with a wire that does not override has its uniform
  have hjoined : ∀ {mode}, node.mode name (some parameter) ≠ .override →
      joinedValue { scene, node, type } name parameter mode =
        pure (Identifier.uniform node.id name) := by
    intro mode hmode
    rw [Uniform.isOverridden_eq_false_iff.mpr (Or.inr hmode), if_neg Bool.false_ne_true] at huniform
    unfold joinedValue
    dsimp only
    rw [huniform]
  refine ⟨?_, ?_, ?_, ?_, ?_, ?_⟩
  · intro wires wire hwires hfind hmode
    rw [outcome_param_of_wire hdeclared hnumeric hwires hfind, if_pos hmode]
  · intro wires wire hwires hfind hmode
    rw [outcome_param_of_wire hdeclared hnumeric hwires hfind, if_neg hmode, hjoined hmode]
    rfl
  · intro wires hwires hfind hmode
    rw [outcome_param_of_no_wire hdeclared hnumeric hwires hfind]
    dsimp only
    rw [huniform, Uniform.isOverridden_eq_false_iff.mpr hmode]
    rfl
  · intro wires hwires hfind hwired hmode
    have hover : Uniform.isOverridden scene.graph node name parameter = true := by
      unfold Uniform.isOverridden
      rw [hwired, hmode]
      rfl
    rw [outcome_param_of_no_wire hdeclared hnumeric hwires hfind]
    dsimp only
    rw [huniform, hover]
    rfl
  · intro fault hwires
    rw [param_none_of_numeric hdeclared hnumeric]
    unfold numericParameter readNumber
    rw [Traced.outcome_bind, hwires]
    rfl
  · intro mode hremark
    rcases mem_remarks_param hdeclared hnumeric hremark with hmem | hmem | ⟨-, -, -, -, hmode, hmem⟩
    · exact missingUniform_ne mode (saysOther_of_mem_parameterWires hmem) rfl
    · exact missingUniform_ne mode (saysOther_of_mem_modeOf hmem) rfl
    · rw [hjoined hmode] at hmem
      cases hmem

end Scope

/-- The parameters of the standard types have different names. -/
lemma Catalog.nodup_parameters_standard (id : String) (type : NodeType)
    (htype : Catalog.standard.find? id = some type) : type.parameters.keys.Nodup := by
  have hall : Catalog.standard.types.entries.all (fun entry =>
      decide entry.2.parameters.keys.Nodup) = true := by decide +kernel
  exact of_decide_eq_true (List.all_eq_true.mp hall (id, type) (Table.mem_entries_of_find? htype))

namespace Scene

/-- A remap whose upper bound is added to. -/
def mixedRemap : Node := ⟨"r", "remap", Table.empty, Table.ofList [("inMax", "Add")]⟩

/-- The remap has a wire that overrides, a wire that is added, and a wire from a node that runs too
late. -/
def mixedWires : Scene :=
  let graph : Graph :=
    { nodes := [⟨"c", "constant-float", Table.empty, Table.empty⟩, mixedRemap,
        ⟨"l", "constant-float", Table.empty, Table.empty⟩]
      wires := [⟨"c", "out", "r", .parameter "inMin"⟩, ⟨"c", "out", "r", .parameter "inMax"⟩,
        ⟨"l", "out", "r", .parameter "outMax"⟩] }
  { graph
    catalog := Catalog.standard
    variableNames := (Variables.generate graph Catalog.standard {}).toOption.getD Table.empty
    order := ["c", "r", "l"]
    uniforms := (Uniform.allocate graph Catalog.standard {}).toOption.getD Table.empty
    renames := Table.empty
    settings := {} }

/-- The scene with wires in several modes has its uniforms. -/
lemma supplied_mixedWires : mixedWires.Supplied where
  ids := by decide
  dots := Catalog.dotFree_standard
  parameters := Catalog.nodup_parameters_standard
  allocated := eq_ok_of_isSome_toOption Table.empty (by decide +kernel)

/-- The bounds of the remap are floats. -/
lemma hasNumber_mixedRemap {name : String} {parameter : Parameter}
    (h : Palette.remap.parameter? name = some parameter) :
    mixedWires.HasNumber mixedRemap Palette.remap name parameter := by
  have hfloat : Palette.remap.parameters.entries.all
      (fun entry => entry.2.type == .float) = true := by decide
  refine ⟨List.mem_cons_of_mem _ List.mem_cons_self, rfl, by decide, h, Or.inl ?_⟩
  exact beq_iff_eq.mp (List.all_eq_true.mp hfloat _ (Table.mem_entries_of_find? h))

end Scene

namespace Scope

/-- The bounds of the remap stand for a wire, a uniform joined with a wire, a uniform alone, and a
value. -/
theorem settled_of_supplied_mixedWires :
    Scene.mixedWires.Supplied ∧
      (∀ name parameter, Palette.remap.parameter? name = some parameter →
        Settled { scene := Scene.mixedWires, node := Scene.mixedRemap, type := Palette.remap }
          name parameter) ∧
      (["inMin", "inMax", "outMin", "outMax"].map fun name =>
        (param { scene := Scene.mixedWires, node := Scene.mixedRemap, type := Palette.remap }
          name none).outcome.toOption) =
        [some "node_c_out", some "(urInMax + node_c_out)", some "urOutMin", some "1.0"] :=
  ⟨Scene.supplied_mixedWires,
    fun _ _ h => settled_of_supplied Scene.supplied_mixedWires (Scene.hasNumber_mixedRemap h),
    by decide +kernel⟩

end Scope

end ShaderLoom
