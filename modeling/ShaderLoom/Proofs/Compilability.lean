import Mathlib.Algebra.Group.Int.Defs
import ShaderLoom.Palette
import ShaderLoom.Proofs.AllocatedUniforms
import ShaderLoom.Proofs.HelperIsolation
import ShaderLoom.Proofs.Placeholders
import ShaderLoom.Proofs.Requests

/-!
# Which graphs can be compiled

A graph of standard node types is compiled exactly when no number that has to be written is too
large, no swizzle has a pattern that is neither known nor can be shown, and the node that marks the
final color is the one that is found under its id.  A conversion never stops it.
-/

namespace ShaderLoom

/-! ### Bands -/

/-- The bands of the node can be read, if nodes of its type have any. -/
def Node.BandsFit (node : Node) (type : NodeType) (settings : Settings) : Prop :=
  type.id = settings.audioAnalyzerType → node.refusesBands = false

/-- The bands of all nodes can be read. -/
def Graph.BandsFit (graph : Graph) (catalog : Catalog) (settings : Settings) : Prop :=
  ∀ node ∈ graph.nodes, ∀ type, catalog.find? node.type = some type → node.BandsFit type settings

section Bands

variable {catalog : Catalog} {settings : Settings} {type : NodeType} {node : Node}

/-- With a safe type, bands that are not refused can be read. -/
lemma Node.exists_bands (h : catalog.Safe settings) (htype : type.isSafe = true)
    (hbands : node.refusesBands = false) : ∃ bands, node.bands type settings = .ok bands := by
  obtain ⟨grid, hgrid⟩ := h.bands
  have hiff := Node.succeedsIff_bands (NodeType.refusesBands_of_isSafe htype) hgrid node
  exact hiff.ok_iff.mpr hbands

/-- The outputs of a node can be named exactly if its bands fit. -/
lemma Node.succeedsIff_outputNames (h : catalog.Safe settings) (htype : type.isSafe = true) :
    SucceedsIff (node.outputNames type settings) (node.BandsFit type settings) := by
  obtain ⟨grid, hgrid⟩ := h.bands
  unfold Node.outputNames Node.BandsFit
  by_cases hid : type.id = settings.audioAnalyzerType
  · rw [if_pos hid]
    refine ((Node.succeedsIff_bands (NodeType.refusesBands_of_isSafe htype) hgrid node).followed
      fun _ _ => ⟨_, rfl⟩).congr ?_
    exact ⟨fun hfits _ => hfits, fun hfits => hfits hid⟩
  · rw [if_neg hid]
    exact SucceedsIff.of_ok rfl fun hanalyzer => absurd hanalyzer hid

/-- The outputs of an audio node can be found exactly if its bands fit. -/
lemma Node.succeedsIff_audioOutputs (h : catalog.Safe settings) (htype : type.isSafe = true) :
    SucceedsIff (Uniform.audioOutputs node type settings)
      (type.category = settings.audioCategory → type.id ≠ settings.audioFileType →
        node.BandsFit type settings) := by
  obtain ⟨grid, hgrid⟩ := h.bands
  unfold Uniform.audioOutputs Node.BandsFit
  by_cases hcategory : type.category = settings.audioCategory
  · rw [if_pos hcategory]
    by_cases hfile : type.id = settings.audioFileType
    · rw [if_pos hfile]
      exact SucceedsIff.of_ok rfl (by simp [hfile])
    · rw [if_neg hfile]
      by_cases hid : type.id = settings.audioAnalyzerType
      · rw [if_pos hid]
        refine ((Node.succeedsIff_bands (NodeType.refusesBands_of_isSafe htype) hgrid
          node).followed fun _ _ => ⟨_, rfl⟩).congr ?_
        exact ⟨fun hfits _ _ _ => hfits, fun hfits => hfits hcategory hfile hid⟩
      · rw [if_neg hid]
        exact SucceedsIff.of_ok rfl (by simp [hid])
  · rw [if_neg hcategory]
    exact SucceedsIff.of_ok rfl (by simp [hcategory])

variable {graph : Graph}

/-- The variables of all outputs are known when the bands of all nodes can be read. -/
lemma Variables.succeedsIff_generate (h : catalog.Safe settings) :
    SucceedsIff (Variables.generate graph catalog settings) (graph.BandsFit catalog settings) := by
  refine SucceedsIff.foldlM (fun table node _ => ?_) Table.empty
  cases htype : catalog.find? node.type with
  | none => exact SucceedsIff.of_ok rfl nofun
  | some type =>
    refine SucceedsIff.found ?_
    exact (Node.succeedsIff_outputNames h (h.types node.type type htype)).followed
      fun _ _ => ⟨_, rfl⟩

/-- Uniforms can be allocated when the bands of all audio nodes can be read. -/
lemma Uniform.succeedsIff_allocate (h : catalog.Safe settings) :
    SucceedsIff (Uniform.allocate graph catalog settings)
      (∀ node ∈ graph.nodes, ∀ type, catalog.find? node.type = some type →
        type.category = settings.audioCategory → type.id ≠ settings.audioFileType →
          node.BandsFit type settings) := by
  refine SucceedsIff.foldlM (fun table node _ => ?_) Table.empty
  cases htype : catalog.find? node.type with
  | none => exact SucceedsIff.of_ok rfl nofun
  | some type =>
    have hnames : SucceedsIff (namesOf graph settings node type)
        (type.category = settings.audioCategory → type.id ≠ settings.audioFileType →
          node.BandsFit type settings) := by
      unfold namesOf
      exact (Node.succeedsIff_audioOutputs h (h.types node.type type htype)).followed
        fun _ _ => ⟨_, rfl⟩
    refine SucceedsIff.found ?_
    exact hnames.followed fun _ _ => ⟨_, rfl⟩

/-- The uniforms can be described when the bands of all nodes can be read. -/
lemma Uniform.exists_records (h : catalog.Safe settings) (hbands : graph.BandsFit catalog settings)
    (table : Table String) (used : Option (List String)) :
    ∃ found, Uniform.records graph catalog table used settings = .ok found := by
  have hnode : ∀ node ∈ graph.nodes,
      ∃ own, recordsOf catalog table used settings node = .ok own := by
    intro node hnode
    unfold recordsOf
    cases htype : catalog.find? node.type with
    | none => exact ⟨_, rfl⟩
    | some type =>
      obtain ⟨outputs, houtputs⟩ := (Node.succeedsIff_audioOutputs h
        (h.types node.type type htype)).ok_iff.mpr fun _ _ => hbands node hnode type htype
      dsimp only
      rw [houtputs]
      exact ⟨_, rfl⟩
  obtain ⟨perNode, hperNode⟩ := exists_mapM_eq_ok hnode
  rw [records_eq, hperNode]
  exact ⟨_, rfl⟩

end Bands

/-! ### The code of one node -/

namespace Scope

variable {scope : Scope}

/-- Whether a swizzle cannot be written: its pattern is not known, and cannot be shown either. -/
def refusesSwizzle (scope : Scope) : Bool :=
  (Swizzle.pattern? scope.swizzleValue).isNone
    && !decide (scope.swizzleValue.IsWritable scope.scene.settings.messageDepth)

/-- Whether the code of the node cannot be written. -/
def refusesCode (scope : Scope) : Bool :=
  match scope.type.emitter scope.scene.settings with
  | .swizzle => scope.refusesSwizzle
  | .template => scope.refusesArrays || scope.refusesTemplate scope.type.mainCode
  | _ => false

/-- Whether the helpers of the node cannot be written. -/
def refusesHelpers (scope : Scope) : Bool :=
  scope.type.helperTemplate?.any scope.refusesTemplate

lemma exists_copyUniforms (scope : Scope) (ports : List String) :
    ∃ lines, (scope.copyUniforms ports).outcome = .ok lines := by
  induction ports with
  | nil => exact ⟨_, rfl⟩
  | cons port rest ih =>
    obtain ⟨lines, hlines⟩ := ih
    unfold copyUniforms
    split
    · exact ⟨lines, hlines⟩
    · split
      · rw [Traced.outcome_bind, hlines]
        exact ⟨_, rfl⟩
      · rw [Traced.outcome_bind]
        exact ⟨lines, hlines⟩

/-- What a swizzle assigns to its output. -/
def swizzled (scope : Scope) (input : String) : String :=
  match Swizzle.pattern? scope.swizzleValue with
  | none => input
  | some pattern => Swizzle.expression
      (if Conversion.isBareName Text.isWord input then input else "(" ++ input ++ ")") pattern

/-- A pattern that is not known has to be shown. -/
def swizzleShown (scope : Scope) : Except Fault Unit :=
  match Swizzle.pattern? scope.swizzleValue with
  | none => do
    let _ ← (scope.swizzleValue.written scope.scene.settings.messageDepth).mapError
      Fault.unwritable
  | some _ => .ok ()

/-- A pattern is shown, or it is refused for a cause. -/
lemma swizzleShown_cases (scope : Scope) :
    (scope.refusesSwizzle = false ∧ scope.swizzleShown = .ok ()) ∨
      ∃ cause, scope.refusesSwizzle = true ∧ scope.swizzleShown = .error (.unwritable cause) := by
  unfold refusesSwizzle swizzleShown
  cases Swizzle.pattern? scope.swizzleValue with
  | some pattern => exact Or.inl ⟨rfl, rfl⟩
  | none =>
    dsimp only
    rcases Value.written_cases scope.scene.settings.messageDepth scope.swizzleValue with
      ⟨hwritable, text, htext⟩ | ⟨cause, harises, hcause⟩
    · rw [htext, decide_eq_true hwritable]
      exact Or.inl ⟨rfl, rfl⟩
    · rw [hcause, decide_eq_false fun hwritable => hwritable cause harises]
      exact Or.inr ⟨cause, rfl, rfl⟩

/-- A swizzle reads its input, shows its pattern if need be, and assigns to its output. -/
lemma outcome_swizzleCode (scope : Scope) : scope.swizzleCode.outcome = (do
    let input ← (scope.input "in").outcome
    scope.swizzleShown
    return scope.writtenVariable "out" ++ " = " ++ scope.swizzled input ++ ";") := by
  unfold swizzleCode swizzled swizzleShown
  simp only [Traced.outcome_bind, outcome_output, ok_bind]
  refine bind_congr fun input => ?_
  cases Swizzle.pattern? scope.swizzleValue with
  | none =>
    dsimp only
    rw [Traced.outcome_bind, Traced.outcome_liftM]
    cases scope.swizzleValue.written scope.scene.settings.messageDepth <;> rfl
  | some pattern => rfl

/-- A swizzle can be written unless it is refused. -/
lemma succeedsIff_swizzleCode (h : scope.Safe) :
    SucceedsIff scope.swizzleCode.outcome (scope.refusesSwizzle = false) := by
  obtain ⟨input, hinput⟩ := exists_input h "in"
  rw [outcome_swizzleCode, hinput, ok_bind]
  rcases swizzleShown_cases scope with ⟨hrefuses, hshown⟩ | ⟨cause, hrefuses, hshown⟩
  · rw [hshown]
    exact SucceedsIff.of_ok rfl hrefuses
  · rw [hshown]
    exact SucceedsIff.of_error rfl rfl (by simp [hrefuses])

/-- The template of a node succeeds unless an array or a placeholder is refused. -/
lemma succeedsIff_templateCode (h : scope.Safe) :
    SucceedsIff scope.templateCode.outcome
      (scope.refusesArrays = false ∧ scope.refusesTemplate scope.type.mainCode = false) := by
  obtain ⟨count, hcount⟩ := h.catalog.places
  unfold templateCode
  rw [Traced.outcome_bind, Traced.outcome_liftM]
  refine (succeedsIff_arrayDeclarations hcount).andThen fun declarations _ => ?_
  rw [Traced.outcome_bind]
  exact (succeedsIff_render h scope.type.mainCode).followed fun _ _ => ⟨_, rfl⟩

/-- The code of a node can be written unless it is refused. -/
lemma succeedsIff_emit (h : scope.Safe)
    (hbands : scope.node.BandsFit scope.type scope.scene.settings) :
    SucceedsIff scope.emit.outcome (scope.refusesCode = false) := by
  unfold emit refusesCode
  cases hemitter : scope.type.emitter scope.scene.settings with
  | nothing => exact SucceedsIff.of_ok rfl (by simp)
  | audioFile =>
    obtain ⟨lines, hlines⟩ := exists_copyUniforms scope (scope.type.outputs.map Port.name)
    dsimp only
    rw [Traced.outcome_bind, hlines]
    exact SucceedsIff.of_ok rfl (by simp)
  | audioAnalyzer =>
    have hid : scope.type.id = scope.scene.settings.audioAnalyzerType := by
      unfold NodeType.emitter at hemitter
      split at hemitter
      · cases hemitter
      split at hemitter
      · cases hemitter
      split at hemitter
      · next hid => exact hid.2
      split at hemitter
      · cases hemitter
      · cases hemitter
    obtain ⟨bands, hfound⟩ := Node.exists_bands h.catalog h.type (hbands hid)
    obtain ⟨lines, hlines⟩ := exists_copyUniforms scope (analyzerPorts bands.length)
    dsimp only
    rw [Traced.outcome_bind, Traced.outcome_liftM, hfound]
    refine SucceedsIff.preceded rfl ?_
    rw [Traced.outcome_bind, hlines]
    exact SucceedsIff.of_ok rfl (by simp)
  | swizzle =>
    dsimp only
    rw [Traced.outcome_bind]
    exact (succeedsIff_swizzleCode h).followed fun _ _ => ⟨_, rfl⟩
  | template =>
    dsimp only
    rw [Traced.outcome_bind]
    exact ((succeedsIff_templateCode h).followed fun _ _ => ⟨_, rfl⟩).congr (by simp)

/-- New names that are words do not get in the way. -/
lemma succeedsIff_body (h : scope.Safe)
    (hbands : scope.node.BandsFit scope.type scope.scene.settings)
    (hnames : ∀ rename ∈ scope.scene.renamesOf scope.node.id,
      Helper.IsName rename.1 ∧ Helper.IsName rename.2) :
    SucceedsIff scope.body.outcome (scope.refusesCode = false) := by
  unfold body
  rw [Traced.outcome_bind]
  refine (succeedsIff_emit h hbands).followed fun code _ => ?_
  cases code with
  | none => exact ⟨_, rfl⟩
  | some code =>
    dsimp only
    rw [Traced.outcome_bind, Traced.outcome_liftM, Helper.renameAll_eq_ok hnames]
    exact ⟨_, rfl⟩

end Scope

/-! ### The plan -/

/-- A plan for nodes of one type can be made when all their helpers can be written. -/
lemma succeedsIff_planType {users : List HelperUser} (h : ∀ user ∈ users, user.scope.Safe)
    (plan : Table (Table String)) :
    SucceedsIff (planType plan users).outcome
      (∀ user ∈ users, user.scope.refusesTemplate user.template = false) := by
  unfold planType
  cases users with
  | nil => exact SucceedsIff.of_ok rfl nofun
  | cons first others =>
    dsimp only
    rw [Traced.outcome_bind, Traced.outcome_mapM]
    refine (SucceedsIff.mapM fun user huser => ?_).followed fun _ _ => ⟨_, rfl⟩
    unfold HelperUser.variant
    rw [Traced.outcome_bind]
    exact (Scope.succeedsIff_render (h user huser) user.template).followed fun _ _ => ⟨_, rfl⟩

namespace Scene

variable {scene : Scene}

/-- A plan can be made when all helpers can be written. -/
lemma succeedsIff_plan (h : scene.catalog.Safe scene.settings) :
    SucceedsIff scene.plan.outcome (∀ id ∈ scene.emissionOrder, ∀ scope,
      Scope.of? scene id = some scope → scope.refusesHelpers = false) := by
  have hsafe : ∀ user ∈ scene.helperUsers, user.scope.Safe := fun user huser =>
    Scope.safe_of_of? h (mem_helperUsers_iff.mp huser).2.1
  have hplan : SucceedsIff scene.plan.outcome (∀ users ∈ scene.usersByType,
      ∀ user ∈ users, user.scope.refusesTemplate user.template = false) := by
    rw [plan_eq, Traced.outcome_foldlM]
    refine SucceedsIff.foldlM (fun plan users husers => ?_) Table.empty
    obtain ⟨member, -, rfl⟩ := mem_usersByType_iff.mp husers
    exact succeedsIff_planType (fun user huser => hsafe user (List.mem_filter.mp huser).1) plan
  refine hplan.congr ⟨fun hall id hid scope hof => ?_, fun hall users husers user huser => ?_⟩
  · unfold Scope.refusesHelpers
    cases htemplate : scope.type.helperTemplate? with
    | none => rfl
    | some template =>
      have heq := Scope.id_of_of? hof
      subst heq
      have huser : (⟨scope, template⟩ : HelperUser) ∈ scene.helperUsers :=
        mem_helperUsers_iff.mpr ⟨hid, hof, htemplate⟩
      refine hall _ (mem_usersByType_iff.mpr ⟨_, huser, rfl⟩) ⟨scope, template⟩ ?_
      exact List.mem_filter.mpr ⟨huser, by simp [HelperUser.sameType]⟩
  · obtain ⟨member, -, rfl⟩ := mem_usersByType_iff.mp husers
    obtain ⟨hid, hof, htemplate⟩ := mem_helperUsers_iff.mp (List.mem_filter.mp huser).1
    have hrefuses := hall user.scope.node.id hid user.scope hof
    unfold Scope.refusesHelpers at hrefuses
    rw [htemplate] at hrefuses
    exact hrefuses

/-- The new names that the plan gives to a node are those of its helpers. -/
lemma exists_helperUser_of_mem_renamesOf {plan : Table (Table String)}
    (hplan : scene.plan.outcome = .ok plan) {id : String} {rename : String × String}
    (h : rename ∈ (scene.withRenames plan).renamesOf id) :
    ∃ user ∈ scene.helperUsers, user.scope.node.id = id ∧ rename ∈ scene.helperRenames user := by
  have hplan' := outcome_plan fun _ => renders_of_plan hplan
  rw [hplan] at hplan'
  have hentries := Except.ok.inj hplan'
  by_cases hentry : ∃ entry ∈ scene.usersByType.flatMap typeEntries, entry.1 = id
  · obtain ⟨⟨_, table⟩, hentry, rfl⟩ := hentry
    obtain ⟨user, huser, rfl, -⟩ := mem_planEntries_iff.mp hentry
    rw [renamesOf_plan hplan huser] at h
    exact ⟨user, huser, rfl, h⟩
  · have hnone : plan.find? id = none := by
      rw [hentries]
      exact Table.find?_insertAll_of_not_mem fun entry hmem heq => hentry ⟨entry, hmem, heq⟩
    have hnil : (scene.withRenames plan).renamesOf id = [] := by
      unfold renamesOf withRenames
      rw [hnone]
      rfl
    rw [hnil] at h
    cases h

/-- The plan gives nothing but words. -/
lemma isName_of_mem_renamesOf {plan : Table (Table String)}
    (hplan : scene.plan.outcome = .ok plan) {id : String} {rename : String × String}
    (h : rename ∈ (scene.withRenames plan).renamesOf id) :
    Helper.IsName rename.1 ∧ Helper.IsName rename.2 := by
  obtain ⟨user, -, -, hrename⟩ := exists_helperUser_of_mem_renamesOf hplan h
  exact isName_of_mem_helperRenames hrename

/-! ### The sections of a shader -/

/-- Outputs can be declared when they are known for all nodes. -/
lemma exists_declarations_of_outputNames (hnames : ∀ node ∈ scene.graph.nodes, ∀ type,
      scene.catalog.find? node.type = some type →
        ∃ ports, node.outputNames type scene.settings = .ok ports) :
    ∃ declared, scene.declarations.outcome = .ok declared := by
  have hnode : ∀ declared, ∀ node ∈ scene.graph.nodes,
      ∃ declared', (scene.declareNode declared node).outcome = .ok declared' := by
    intro declared node hnode
    unfold declareNode
    cases htype : scene.catalog.find? node.type with
    | none => exact ⟨_, rfl⟩
    | some type =>
      obtain ⟨ports, hports⟩ := hnames node hnode type htype
      dsimp only
      split
      · exact ⟨_, rfl⟩
      · rw [Traced.outcome_bind, Traced.outcome_liftM, hports]
        exact ⟨_, rfl⟩
  have hwire : ∀ declared, ∀ wire ∈ scene.graph.wires,
      ∃ declared', (scene.declareSource declared wire).outcome = .ok declared' := by
    intro declared wire _
    unfold declareSource
    split
    · split
      · exact ⟨_, rfl⟩
      · exact ⟨_, rfl⟩
    · exact ⟨_, rfl⟩
  obtain ⟨declared, hdeclared⟩ := exists_foldlM_eq_ok hnode []
  unfold declarations
  rw [Traced.outcome_bind, Traced.outcome_foldlM, hdeclared]
  show ∃ result, (scene.graph.wires.foldlM scene.declareSource declared).outcome = .ok result
  rw [Traced.outcome_foldlM]
  exact exists_foldlM_eq_ok hwire declared

section Sections

variable (h : scene.catalog.Safe scene.settings)
  (hbands : scene.graph.BandsFit scene.catalog scene.settings)

include h hbands

lemma exists_outputNames {id : String} {node : Node} {type : NodeType}
    (hnode : scene.node? id = some node) (htype : scene.catalog.find? node.type = some type) :
    ∃ names, node.outputNames type scene.settings = .ok names :=
  (Node.succeedsIff_outputNames h (h.types node.type type htype)).ok_iff.mpr
    (hbands node (Graph.mem_of_node? hnode) type htype)

/-- All outputs can be declared. -/
lemma exists_declarations : ∃ declared, scene.declarations.outcome = .ok declared :=
  exists_declarations_of_outputNames fun node hnode type htype =>
    (Node.succeedsIff_outputNames h (h.types node.type type htype)).ok_iff.mpr
      (hbands node hnode type htype)

/-- The block of a node can be written unless its code is refused. -/
lemma succeedsIff_block? (hnames : ∀ id, ∀ rename ∈ scene.renamesOf id,
    Helper.IsName rename.1 ∧ Helper.IsName rename.2) (id : String) :
    SucceedsIff (scene.block? id).outcome
      (∀ scope, Scope.of? scene id = some scope → scope.refusesCode = false) := by
  unfold block?
  cases hof : Scope.of? scene id with
  | none =>
    have hnothing : ∀ scope, (none : Option Scope) = some scope → scope.refusesCode = false := nofun
    dsimp only
    cases scene.node? id with
    | none => exact SucceedsIff.of_ok rfl hnothing
    | some node => exact SucceedsIff.of_ok rfl hnothing
  | some scope =>
    obtain ⟨node, type, hnode, htype, hscope⟩ := Scope.of?_eq_some_iff.mp hof
    have hfits : scope.node.BandsFit scope.type scope.scene.settings := by
      rw [hscope]
      exact hbands node (Graph.mem_of_node? hnode) type htype
    have hbody : SucceedsIff scope.body.outcome (scope.refusesCode = false) := by
      refine Scope.succeedsIff_body (Scope.safe_of_of? h hof) hfits ?_
      rw [hscope]
      exact hnames node.id
    dsimp only
    rw [Traced.outcome_bind]
    refine SucceedsIff.found (hbody.followed fun code _ => ?_)
    cases code with
    | none => exact ⟨_, rfl⟩
    | some code =>
      dsimp only
      split
      · exact ⟨_, rfl⟩
      · exact ⟨_, rfl⟩

/-- The blocks of a scene are made unless the code of a node is refused. -/
lemma succeedsIff_blocks (hnames : ∀ id, ∀ rename ∈ scene.renamesOf id,
    Helper.IsName rename.1 ∧ Helper.IsName rename.2) :
    SucceedsIff scene.blocks.outcome (∀ id ∈ scene.order, ∀ scope,
      Scope.of? scene id = some scope → scope.refusesCode = false) := by
  unfold blocks
  rw [Traced.outcome_bind, Traced.outcome_mapM]
  exact (SucceedsIff.mapM fun id _ => succeedsIff_block? h hbands hnames id).followed
    fun _ _ => ⟨_, rfl⟩

/-! ### The final color -/

omit hbands in
/-- The color of a sink is found when the type of the sink is known. -/
lemma succeedsIff_sinkColor (sink : String) :
    SucceedsIff (scene.sinkColor sink).outcome ((scene.typeOf? sink).isSome = true) := by
  unfold sinkColor
  cases scene.typeOf? sink with
  | none => exact SucceedsIff.of_error rfl rfl nofun
  | some type =>
    refine SucceedsIff.congr (P := True) ?_ (by simp)
    dsimp only
    split
    · exact SucceedsIff.of_ok rfl trivial
    · split
      · next sourceType name htype _ =>
        obtain ⟨node, -, hfind⟩ := Option.bind_eq_some_iff.mp htype
        obtain ⟨text, htext⟩ := Conversion.exists_toColor
          (NodeType.outputType_ne_bool (h.types node.type sourceType hfind) _) name
        exact SucceedsIff.of_ok htext trivial
      · exact SucceedsIff.of_ok rfl trivial

/-- The outputs of a node are never truths. -/
lemma exists_shownOutputs (id : String) :
    ∃ outputs, scene.shownOutputs id = .ok outputs ∧ ∀ output ∈ outputs, output.2.1 ≠ .bool := by
  unfold shownOutputs
  split
  · next node type hnode htype =>
    obtain ⟨node', hnode', hfind⟩ := Option.bind_eq_some_iff.mp htype
    rw [hnode] at hnode'
    cases hnode'
    obtain ⟨names, hnames⟩ := exists_outputNames h hbands hnode hfind
    rw [hnames]
    refine ⟨_, rfl, fun output houtput => ?_⟩
    obtain ⟨port, -, hport⟩ := List.mem_filterMap.mp houtput
    obtain ⟨name, -, rfl⟩ := Option.map_eq_some_iff.mp hport
    exact NodeType.outputType_ne_bool (h.types node.type type hfind) port
  · exact ⟨[], rfl, nofun⟩

omit h hbands in
/-- The preferred output is one of the given ones. -/
lemma mem_of_preferredOutput {outputs : List (String × PortType × String)}
    {output : String × PortType × String} (hpreferred : preferredOutput outputs = some output) :
    output ∈ outputs := by
  unfold preferredOutput at hpreferred
  split at hpreferred
  · cases hpreferred
  · next first rest =>
    cases hpreferred
    cases hfind : (first :: rest).find? fun output => output.1 == "out" with
    | none => exact List.mem_cons_self
    | some found => exact List.mem_of_find?_eq_some hfind

/-- The search for a color does not fail. -/
lemma exists_colorFrom? (p : PortType → Bool) (ids : List String) :
    ∃ color, scene.colorFrom? p ids = .ok color := by
  induction ids with
  | nil => exact ⟨_, rfl⟩
  | cons id rest ih =>
    obtain ⟨outputs, houtputs, htruth⟩ := exists_shownOutputs h hbands id
    unfold colorFrom?
    rw [houtputs, ok_bind]
    split
    · next output type name hpreferred =>
      have hmem : (output, type, name) ∈ outputs :=
        (List.mem_filter.mp (mem_of_preferredOutput hpreferred)).1
      obtain ⟨text, htext⟩ := Conversion.exists_toColor (htruth _ hmem) name
      rw [htext]
      exact ⟨_, rfl⟩
    · exact ih

/-- The final color is found unless it is marked by a node whose type is not known. -/
lemma succeedsIff_finalColor :
    SucceedsIff scene.finalColor.outcome
      (∀ id, scene.sink? = some id → (scene.typeOf? id).isSome = true) := by
  unfold finalColor
  cases scene.sink? with
  | some sink =>
    dsimp only
    rw [Traced.outcome_bind]
    refine SucceedsIff.found ?_
    exact (succeedsIff_sinkColor h sink).followed fun _ _ => ⟨_, rfl⟩
  | none =>
    obtain ⟨color, hcolor⟩ := exists_colorFrom? h hbands PortType.isColor scene.order.reverse
    obtain ⟨other, hother⟩ := exists_colorFrom? h hbands (· != .bool) scene.order.reverse
    refine SucceedsIff.congr (P := True) ?_ (iff_of_true trivial nofun)
    dsimp only
    unfold fallbackColor
    rw [Traced.outcome_bind, Traced.outcome_liftM]
    refine SucceedsIff.preceded hcolor ?_
    cases color with
    | some color => exact SucceedsIff.of_ok rfl trivial
    | none =>
      dsimp only
      rw [Traced.outcome_bind, Traced.outcome_liftM]
      refine SucceedsIff.preceded hother ?_
      cases other with
      | some color => exact SucceedsIff.of_ok rfl trivial
      | none => exact SucceedsIff.of_ok rfl trivial

end Sections

/-! ### Whole scenes -/

/-- Everything that the nodes of a scene need can be written, and the type of the node that marks
the final color is known. -/
structure Expressible (scene : Scene) : Prop where
  code : ∀ id ∈ scene.order, ∀ scope, Scope.of? scene id = some scope → scope.refusesCode = false
  helpers : ∀ id ∈ scene.emissionOrder, ∀ scope, Scope.of? scene id = some scope →
    scope.refusesHelpers = false
  sink : ∀ id, scene.sink? = some id → (scene.typeOf? id).isSome = true

/-- New names for helpers do not change which code is refused. -/
lemma refusesCode_withRenames (plan : Table (Table String)) (id : String) :
    (∀ scope, Scope.of? (scene.withRenames plan) id = some scope → scope.refusesCode = false) ↔
      ∀ scope, Scope.of? scene id = some scope → scope.refusesCode = false := by
  have hcode : ∀ scope, Scope.of? scene id = some scope →
      (scope.inScene (scene.withRenames plan)).refusesCode = scope.refusesCode := by
    intro scope hof
    obtain ⟨node, type, -, -, rfl⟩ := Scope.of?_eq_some_iff.mp hof
    rfl
  have hagrees : scene.Agrees (scene.withRenames plan) := scene.agrees_renames plan
  rw [hagrees.of?_eq]
  constructor
  · intro hall scope hof
    rw [← hcode scope hof]
    exact hall _ (by rw [hof]; rfl)
  · intro hall scope hof
    obtain ⟨original, horiginal, rfl⟩ := Option.map_eq_some_iff.mp hof
    exact (hcode original horiginal).trans (hall original horiginal)

/-- With the names of the plan, all sections can be written unless some code is refused. -/
lemma succeedsIff_program (h : scene.catalog.Safe scene.settings)
    (hbands : scene.graph.BandsFit scene.catalog scene.settings) {plan : Table (Table String)}
    (hplan : scene.plan.outcome = .ok plan) :
    SucceedsIff (scene.withRenames plan).program.outcome
      (∀ id ∈ scene.order, ∀ scope, Scope.of? scene id = some scope →
        scope.refusesCode = false) := by
  have hsafe : (scene.withRenames plan).catalog.Safe (scene.withRenames plan).settings := h
  have hfits : (scene.withRenames plan).graph.BandsFit (scene.withRenames plan).catalog
    (scene.withRenames plan).settings := hbands
  obtain ⟨declared, hdeclared⟩ := exists_declarations hsafe hfits
  unfold program
  rw [Traced.outcome_bind]
  refine SucceedsIff.preceded hdeclared ?_
  rw [Traced.outcome_bind]
  have hblocks := succeedsIff_blocks hsafe hfits fun _ _ => isName_of_mem_renamesOf hplan
  refine (hblocks.followed fun blocks _ => ?_).congr ?_
  · rw [Traced.outcome_bind, outcome_helpers hplan]
    exact ⟨_, rfl⟩
  · exact forall₂_congr fun id _ => refusesCode_withRenames plan id

end Scene

/-! ### Whole requests -/

/-- The bands of all nodes can be read, and everything that the scene of the request needs can be
written. -/
structure Request.Expressible (request : Request) : Prop where
  bands : request.graph.BandsFit request.catalog request.settings
  scene : ∀ scene, request.scene = .ok scene → scene.Expressible

namespace Request

variable {request : Request}

/-- A request has a scene exactly if the bands of its nodes fit. -/
lemma succeedsIff_scene (h : request.catalog.Safe request.settings) :
    SucceedsIff request.scene (request.graph.BandsFit request.catalog request.settings) := by
  have hwith : ∀ uniforms, SucceedsIff (request.sceneWith uniforms)
      (request.graph.BandsFit request.catalog request.settings) := fun uniforms =>
    (Variables.succeedsIff_generate h).followed fun _ _ => ⟨_, rfl⟩
  cases huniforms : request.uniforms with
  | some table =>
    rw [scene_of_named huniforms]
    exact hwith table
  | none =>
    rw [scene_of_allocated huniforms]
    refine ((Uniform.succeedsIff_allocate h).andThen fun uniforms _ => hwith uniforms).congr ?_
    exact and_iff_right_of_imp fun hfits node hnode type htype _ _ => hfits node hnode type htype

/-- The shader of a scene is made exactly if the scene can be expressed. -/
lemma succeedsIff_shaderOf (h : request.catalog.Safe request.settings)
    (hrenames : request.renames = none)
    (hbands : request.graph.BandsFit request.catalog request.settings) {scene : Scene}
    (hscene : request.scene = .ok scene) :
    SucceedsIff (request.shaderOf scene).outcome scene.Expressible := by
  have hparts := isScene_of_scene hscene
  have hsafe : scene.catalog.Safe scene.settings := by
    rw [hparts.catalog, hparts.settings]
    exact h
  have hfits : scene.graph.BandsFit scene.catalog scene.settings := by
    rw [hparts.graph, hparts.catalog, hparts.settings]
    exact hbands
  have hplan : SucceedsIff (request.plan scene).outcome (∀ id ∈ scene.emissionOrder, ∀ scope,
      Scope.of? scene id = some scope → scope.refusesHelpers = false) := by
    rw [outcome_plan hrenames]
    exact Scene.succeedsIff_plan hsafe
  have hshader : SucceedsIff (request.shaderOf scene).outcome
      ((∀ id ∈ scene.emissionOrder, ∀ scope, Scope.of? scene id = some scope →
        scope.refusesHelpers = false) ∧
      (∀ id ∈ scene.order, ∀ scope, Scope.of? scene id = some scope → scope.refusesCode = false) ∧
      ∀ id, scene.sink? = some id → (scene.typeOf? id).isSome = true) := by
    unfold shaderOf
    rw [Traced.outcome_bind]
    refine hplan.andThen fun renames hfound => ?_
    rw [outcome_plan hrenames] at hfound
    dsimp only
    rw [Traced.outcome_bind]
    refine (Scene.succeedsIff_program hsafe hfits hfound).andThen fun program _ => ?_
    have hsafe' : (scene.withRenames renames).catalog.Safe (scene.withRenames renames).settings :=
      hsafe
    rw [Traced.outcome_bind]
    refine (Scene.succeedsIff_finalColor hsafe' hfits).followed fun color _ => ?_
    obtain ⟨records, hrecords⟩ :=
      Uniform.exists_records h hbands (scene.withRenames renames).uniforms
        (some (Uniform.used (program.mainCode ++ "\n" ++ program.helpers).toList
          (scene.withRenames renames).uniforms))
    rw [Traced.outcome_bind, Traced.outcome_liftM, hrecords]
    exact ⟨_, rfl⟩
  exact hshader.congr ⟨fun ⟨hhelpers, hcode, hsink⟩ => ⟨hcode, hhelpers, hsink⟩,
    fun hexpressible => ⟨hexpressible.helpers, hexpressible.code, hexpressible.sink⟩⟩

/-- A shader can be made exactly when the request can be expressed. -/
theorem succeedsIff_shader (h : request.catalog.Safe request.settings)
    (hrenames : request.renames = none) :
    SucceedsIff request.shader.outcome request.Expressible := by
  rw [outcome_shader]
  have hscene := succeedsIff_scene h
  refine (hscene.bind fun scene hfound => ?_).congr
    ⟨fun ⟨hbands, hall⟩ => ⟨hbands, hall⟩, fun hexpressible => ⟨hexpressible.1, hexpressible.2⟩⟩
  exact succeedsIff_shaderOf h hrenames (hscene.ok_iff.mp ⟨scene, hfound⟩) hfound

end Request

/-! ### Standard node types -/

/-- The request to compile a graph of standard node types with the usual settings, whose helpers
the compiler specializes itself. -/
def Request.standard (graph : Graph) (order : List String) (uniforms : Option (Table String))
    (depth : Nat) : Request where
  graph := graph
  catalog := Catalog.standard
  settings := .standard depth
  order := order
  uniforms := uniforms
  renames := none

/-- The standard node types cannot stop a compilation by themselves. -/
lemma Catalog.safe_standard (depth : Nat) : Catalog.standard.Safe (.standard depth) where
  types := by
    have hall : Catalog.standard.types.entries.all (fun entry => entry.2.isSafe) = true := by
      decide +kernel
    intro id type htype
    exact List.all_eq_true.mp hall (id, type) (Table.mem_entries_of_find? htype)
  bands := by
    have hgrid : ({} : Settings).defaultBands.toGrid = .ok _ :=
      eq_ok_of_isSome_toOption default (by decide +kernel)
    exact ⟨_, hgrid⟩
  places := ⟨10, rfl⟩

/-- A graph of standard node types is compiled exactly when it can be expressed: no number that has
to be written is too large, no swizzle has a pattern that is neither known nor can be shown, and the
node that marks the final color is found under its id.  If it is not compiled, that is the cause; a
conversion never is.  How deeply a value may be nested that is shown depends on the host. -/
theorem compile_standard_iff_expressible (graph : Graph) (order : List String)
    (uniforms : Option (Table String)) (depth : Nat) :
    ((∃ compiled, (compile (.standard graph order uniforms depth)).outcome = .ok compiled) ↔
        (Request.standard graph order uniforms depth).Expressible) ∧
      ∀ fault, (compile (.standard graph order uniforms depth)).outcome = .error fault →
        fault.isRefusal = true := by
  have hshader : SucceedsIff (Request.standard graph order uniforms depth).shader.outcome
      (Request.standard graph order uniforms depth).Expressible :=
    Request.succeedsIff_shader (Catalog.safe_standard depth) rfl
  rw [outcome_compile]
  exact ⟨hshader.ok_iff, hshader.refusal⟩

/-- A constant that is too large, for which there is no uniform. -/
def oversizedConstant : Request :=
  .standard ⟨[⟨"c", "constant-float", ⟨[("value", .int (10 ^ 400))]⟩, ⟨[]⟩⟩], []⟩ ["c"]
    (some Table.empty) 1000

/-- The constant stops the compilation, though nothing is converted. -/
theorem oversizedConstant_not_compiled :
    (compile oversizedConstant).outcome = .error (.number .tooLarge) := by
  rw [← numberFault?_eq_some_iff]
  decide +kernel

end ShaderLoom
