import ShaderLoom.Compilation
import ShaderLoom.Proofs.HelperPlan
import ShaderLoom.Proofs.MergedDiagnostics
import ShaderLoom.Proofs.Outcomes
import ShaderLoom.Proofs.Placeholders

/-!
# What remarks say

Every remark of a compilation begins in one of a few ways, apart from those on uniforms that are
missing.  When every node finds the uniforms that its code reads, nothing else is said, and so no
warning is about a uniform.
-/

namespace ShaderLoom

/-! ### Remarks of traced computations -/

namespace Traced

variable {α β γ : Type} {p : String → Prop}

/-- The remarks of two computations, one after the other. -/
lemma mem_remarks_bind {remark : Remark} {first : Traced α} {next : α → Traced β} :
    remark ∈ (first >>= next).remarks ↔
      remark ∈ first.remarks ∨ ∃ a, first.outcome = .ok a ∧ remark ∈ (next a).remarks := by
  cases h : first.outcome with
  | ok a =>
    rw [remarks_bind_of_ok h, List.mem_append]
    simp
  | error fault =>
    rw [remarks_bind_of_error h]
    simp

/-- All that is remarked satisfies `p`. -/
def Says (p : String → Prop) (traced : Traced α) : Prop :=
  ∀ remark ∈ traced.remarks, p remark.message

namespace Says

/-- A computation without remarks says nothing. -/
lemma of_remarks_eq_nil {traced : Traced α} (h : traced.remarks = []) : traced.Says p := by
  unfold Says
  rw [h]
  exact fun remark hremark => absurd hremark List.not_mem_nil

/-- What is said satisfies every weaker property as well. -/
lemma mono {q : String → Prop} {traced : Traced α} (h : traced.Says p)
    (himp : ∀ message, p message → q message) : traced.Says q :=
  fun remark hremark => himp remark.message (h remark hremark)

lemma pure (a : α) : (pure a : Traced α).Says p := of_remarks_eq_nil rfl

lemma lift (outcome : Except Fault α) : (Traced.lift outcome).Says p := of_remarks_eq_nil rfl

lemma liftM (outcome : Except Fault α) : (liftM outcome : Traced α).Says p := of_remarks_eq_nil rfl

lemma fail (fault : Fault) : (Traced.fail fault : Traced α).Says p := of_remarks_eq_nil rfl

/-- A remark says its message. -/
lemma remark {message : String} (h : p message) : (Traced.remark message).Says p := by
  intro remark hremark
  rw [List.mem_singleton.mp hremark]
  exact h

lemma remarkIf {message : String} (h : p message) (condition : Bool) :
    (Traced.remarkIf condition message).Says p := by
  cases condition with
  | true => exact remark h
  | false => exact of_remarks_eq_nil rfl

/-- The second of two computations speaks only after the first has succeeded. -/
lemma bind_of_ok {first : Traced α} {next : α → Traced β} (hfirst : first.Says p)
    (hnext : ∀ a, first.outcome = .ok a → (next a).Says p) : (first >>= next).Says p := by
  intro remark hremark
  rcases mem_remarks_bind.mp hremark with hremark | ⟨a, ha, hremark⟩
  · exact hfirst remark hremark
  · exact hnext a ha remark hremark

/-- Two computations say what both of them may say. -/
lemma bind {first : Traced α} {next : α → Traced β} (hfirst : first.Says p)
    (hnext : ∀ a, (next a).Says p) : (first >>= next).Says p :=
  hfirst.bind_of_ok fun a _ => hnext a

/-- A remark, and then a value. -/
lemma remark_pure {message : String} (h : p message) (a : α) :
    (Traced.remark message >>= fun _ => (Pure.pure a : Traced α)).Says p :=
  (remark h).bind fun _ => pure a

/-- A fold says what its steps may say. -/
lemma foldlM {f : β → α → Traced β} {items : List α}
    (h : ∀ b, ∀ item ∈ items, (f b item).Says p) (start : β) : (items.foldlM f start).Says p := by
  induction items generalizing start with
  | nil => exact pure start
  | cons item items ih =>
    rw [List.foldlM_cons]
    exact (h start item List.mem_cons_self).bind
      (ih fun b other hother => h b other (List.mem_cons_of_mem item hother))

/-- A list of computations says what each of them may say. -/
lemma mapM {f : α → Traced β} {items : List α} (h : ∀ item ∈ items, (f item).Says p) :
    (items.mapM f).Says p := by
  induction items with
  | nil => exact pure []
  | cons item items ih =>
    rw [List.mapM_cons]
    refine (h item List.mem_cons_self).bind fun b => ?_
    exact (ih fun other hother => h other (List.mem_cons_of_mem item hother)).bind fun _ => pure _

/-- The stage that remarks belong to does not change their words. -/
lemma inStage {traced : Traced α} (h : traced.Says p) (stage : Stage) :
    (traced.inStage stage).Says p := by
  intro remark hremark
  obtain ⟨original, horiginal, rfl⟩ := List.mem_map.mp hremark
  exact h original horiginal

/-- What is said while a template is filled is said by the answers to its holes. -/
lemma concat {fill : α → Traced String} (h : ∀ hole, (fill hole).Says p)
    (segments : List (Template.Segment α)) : (Template.concat fill segments).Says p := by
  induction segments with
  | nil => exact pure ""
  | cons segment segments ih =>
    cases segment with
    | literal text => exact ih.bind fun _ => pure _
    | hole hole => exact (h hole).bind fun _ => ih.bind fun _ => pure _

/-- A template says what its placeholders say. -/
lemma render {resolver : Template.Resolver Traced} (hfill : ∀ hole, (resolver.fill hole).Says p)
    (hparam : ∀ name index, (resolver.param name index).Says p) (template : String) :
    (Template.render resolver template).Says p := by
  refine concat (fun hole => ?_) _
  cases hole with
  | plain placeholder => exact hfill placeholder
  | element name index => exact (concat hfill _).bind fun _ => hparam name _

end Says

end Traced

/-! ### Openings -/

/-- The first words of all remarks but those on missing uniforms. -/
def openings : List String :=
  ["Connection into unknown input ", "Source node ", "Unknown output ", "No variable for ",
    "Multiple connections into ", "Parameter wire into ", "Unresolved parameter $",
    "Unknown input mode ", "Array parameter ", "Input ", "String parameter ",
    "Invalid swizzle pattern ", "Unknown node type '", "No variables generated for ",
    "Force-declared missing variable ", "Execution order names unknown node ", "Output node ",
    "No node produces a color", "Node ", "Graph is empty"]

/-- The message begins with one of these words. -/
def Opens (message : String) : Prop :=
  ∃ start ∈ openings, start.toList <+: message.toList

/-- The message begins with one of the given words. -/
def OpensWith (starts : List String) (message : String) : Prop :=
  ∃ start ∈ starts, start.toList <+: message.toList

/-- The opening of a message that is put together from its first words. -/
lemma opensWith_append {starts : List String} {start rest : String} (h : start ∈ starts) :
    OpensWith starts (start ++ rest) :=
  ⟨start, h, by rw [String.toList_append]; exact List.prefix_append _ _⟩

lemma opens_append {start rest : String} (h : start ∈ openings) : Opens (start ++ rest) :=
  opensWith_append h

/-- Words that no opening begins with, and that begin no opening, are not found at the front of
such a message. -/
lemma OpensWith.not_prefix {starts : List String} {message start : String}
    (h : OpensWith starts message)
    (hstart : starts.all (fun opening => !opening.toList.isPrefixOf start.toList &&
      !start.toList.isPrefixOf opening.toList) = true) : ¬start.toList <+: message.toList := by
  obtain ⟨opening, hopening, hmessage⟩ := h
  intro hprefix
  have hapart := List.all_eq_true.mp hstart opening hopening
  simp only [Bool.and_eq_true, Bool.not_eq_true', ← Bool.not_eq_true,
    List.isPrefixOf_iff_prefix] at hapart
  rcases List.prefix_or_prefix_of_prefix hmessage hprefix with hbefore | hbefore
  · exact hapart.1 hbefore
  · exact hapart.2 hbefore

lemma Opens.not_prefix {message start : String} (h : Opens message)
    (hstart : openings.all (fun opening => !opening.toList.isPrefixOf start.toList &&
      !start.toList.isPrefixOf opening.toList) = true) : ¬start.toList <+: message.toList :=
  OpensWith.not_prefix h hstart

/-- The first words of the remarks on inputs and outputs. -/
def portOpenings : List String :=
  ["Connection into unknown input ", "Source node ", "Unknown output ", "No variable for ",
    "Multiple connections into ", "Input "]

/-- The remarks on inputs and outputs are among the known ones. -/
lemma opens_of_portOpenings {message : String} (h : OpensWith portOpenings message) :
    Opens message := by
  have hall : portOpenings.all (fun start => openings.contains start) = true := by decide
  obtain ⟨start, hstart, hmessage⟩ := h
  exact ⟨start, List.contains_iff_mem.mp (List.all_eq_true.mp hall start hstart), hmessage⟩

namespace Scope

variable (scope : Scope)

/-! ### Placeholders -/

/-- What a wire into an input brings up is a remark on inputs. -/
lemma opensWith_addInput (resolved : Table String) (wire : Wire) (port : String) :
    (scope.addInput resolved wire port).Says (OpensWith portOpenings) := by
  unfold addInput
  simp only [String.append_assoc]
  split
  · exact .remark_pure (opensWith_append (by decide)) _
  split
  · exact .remark_pure (opensWith_append (by decide)) _
  split
  · exact .remark_pure (opensWith_append (by decide)) _
  split
  · exact .remark_pure (opensWith_append (by decide)) _
  · exact (Traced.Says.remarkIf (opensWith_append (by decide)) _).bind fun _ =>
      (Traced.Says.liftM _).bind fun _ => .pure _

/-- What the inputs of a node bring up are remarks on inputs. -/
lemma opensWith_inputs : scope.inputs.Says (OpensWith portOpenings) := by
  unfold inputs
  refine (Traced.Says.foldlM (fun resolved item _ => ?_) _).bind fun wired => ?_
  · exact scope.opensWith_addInput resolved item.1 item.2
  · split
    · exact .pure _
    · exact .pure _

/-- Reading an input brings up a remark on it at most. -/
lemma opensWith_readInput (exprs : Table String) (port : String) :
    (scope.readInput exprs port).Says (OpensWith portOpenings) := by
  unfold readInput
  simp only [String.append_assoc]
  split
  · exact .pure _
  · exact .remark_pure (opensWith_append (by decide)) _

lemma opensWith_input (port : String) : (scope.input port).Says (OpensWith portOpenings) :=
  scope.opensWith_inputs.bind fun exprs => scope.opensWith_readInput exprs port

lemma opensWith_output (port : String) : (scope.output port).Says (OpensWith portOpenings) := by
  have hstart : "No variable for output " = "No variable for " ++ "output " := by decide
  unfold output
  rw [hstart]
  simp only [String.append_assoc]
  split
  · exact .pure _
  · exact .remark_pure (opensWith_append (by decide)) _

lemma opens_input (port : String) : (scope.input port).Says Opens :=
  (scope.opensWith_input port).mono fun _ => opens_of_portOpenings

lemma opens_output (port : String) : (scope.output port).Says Opens :=
  (scope.opensWith_output port).mono fun _ => opens_of_portOpenings

/-- What the source of a wire brings up is known. -/
lemma opens_sourceVariable (wire : Wire) : (scope.sourceVariable wire).Says Opens := by
  unfold sourceVariable
  simp only [String.append_assoc]
  split
  · exact .pure _
  · exact .remark_pure (opens_append (by decide)) _

/-- A wire into a parameter brings up known remarks. -/
lemma opens_addParameterWire (chosen : Table (Nat × String)) (wire : Wire) (parameter : String) :
    (scope.addParameterWire chosen wire parameter).Says Opens := by
  unfold addParameterWire
  simp only [String.append_assoc]
  split
  · exact .remark_pure (opens_append (by decide)) _
  split
  · exact .remark_pure (opens_append (by decide)) _
  split
  · exact .remark_pure (opens_append (by decide)) _
  split
  · exact .pure _
  split
  · exact .pure _
  split
  · exact .pure _
  · exact (scope.opens_sourceVariable wire).bind fun _ => (Traced.Says.liftM _).bind fun _ =>
      .pure _

lemma opens_parameterWires : scope.parameterWires.Says Opens := by
  unfold parameterWires
  refine (Traced.Says.foldlM (fun chosen item _ => ?_) _).bind fun _ => .pure _
  exact scope.opens_addParameterWire chosen item.1 item.2

/-- A mode that is not known brings up a known remark. -/
lemma opens_modeOf (name : String) (parameter : Parameter) :
    (scope.modeOf name parameter).Says Opens := by
  unfold modeOf
  simp only [String.append_assoc]
  split
  · exact .pure _
  · exact (Traced.Says.remarkIf (opens_append (by decide)) _).bind fun _ => .pure _

/-- A parameter that is not declared brings up a known remark. -/
lemma opens_undeclaredParameter (name : String) : (scope.undeclaredParameter name).Says Opens := by
  unfold undeclaredParameter
  simp only [String.append_assoc]
  refine (Traced.Says.remark (opens_append (by decide))).bind fun _ => ?_
  split
  · exact .liftM _
  · exact .pure _
  · exact .pure _

/-- An array brings up a known remark. -/
lemma opens_readArray (arrays : Arrays) (name : String) (index : Option String) :
    (scope.readArray arrays name index).Says Opens := by
  unfold readArray
  simp only [String.append_assoc]
  split
  · exact .pure _
  · exact .pure _
  · exact .remark_pure (opens_append (by decide)) _

/-- The parameters that wires do not override have uniforms. -/
def JoinsUniforms (scope : Scope) : Prop :=
  ∀ name parameter, scope.type.parameter? name = some parameter →
    (parameter.type = .float ∨ parameter.type = .int ∨ parameter.type = .vec4) →
    scope.node.mode name (some parameter) ≠ .override →
      (scope.scene.uniform? scope.node.id name).isSome

section Templates

variable {scope} (hjoins : scope.JoinsUniforms)

include hjoins

/-- A parameter with a number in it brings up known remarks, if its uniform is there. -/
lemma opens_numericParameter {name : String} {parameter : Parameter}
    (hdeclared : scope.type.parameter? name = some parameter)
    (hnumeric : parameter.type = .float ∨ parameter.type = .int ∨ parameter.type = .vec4) :
    (scope.numericParameter name parameter).Says Opens := by
  refine scope.opens_parameterWires.bind fun wires => ?_
  unfold readNumber
  split
  · refine (scope.opens_modeOf name parameter).bind_of_ok fun mode hmode => ?_
    rw [outcome_modeOf] at hmode
    cases hmode
    split
    · exact .pure _
    · next hover =>
      -- the one place where the uniform might be missing
      obtain ⟨uniform, huniform⟩ :=
        Option.isSome_iff_exists.mp (hjoins name parameter hdeclared hnumeric hover)
      unfold joinedValue
      rw [huniform]
      exact (Traced.Says.pure uniform).bind fun _ => .pure _
  · split
    · exact .pure _
    · exact .liftM _

/-- A parameter brings up known remarks. -/
lemma opens_param (name : String) (index : Option String) :
    (scope.param name index).Says Opens := by
  unfold param
  split
  · exact scope.opens_undeclaredParameter name
  · next parameter hdeclared =>
    split
    · exact (Traced.Says.liftM _).bind fun arrays => scope.opens_readArray arrays name index
    · simp only [String.append_assoc]
      exact .remark_pure (opens_append (by decide)) _
    all_goals
      next htype =>
      have hnumeric : parameter.type = .float ∨ parameter.type = .int ∨ parameter.type = .vec4 := by
        simp [htype]
      refine (opens_numericParameter hjoins hdeclared hnumeric).bind fun expr => ?_
      split
      · exact .pure _
      · exact .pure _

/-- Whatever is said while a template is filled has one of the openings. -/
lemma opens_render (template : String) : (scope.render template).Says Opens := by
  refine Traced.Says.render (fun placeholder => ?_) (opens_param hjoins) template
  cases placeholder with
  | input port => exact scope.opens_input port
  | output port => exact scope.opens_output port
  | param name => exact opens_param hjoins name none
  | global value => exact .pure _
  | result => exact .pure _

end Templates

/-! ### The code of a node -/

/-- A pattern for lanes brings up known remarks. -/
lemma opens_swizzleCode : scope.swizzleCode.Says Opens := by
  unfold swizzleCode
  simp only [String.append_assoc]
  refine (scope.opens_input "in").bind fun _ => (scope.opens_output "out").bind fun _ => ?_
  split
  · exact (Traced.Says.liftM _).bind fun _ => .remark_pure (opens_append (by decide)) _
  · exact .pure _

/-- No uniform is missed in the code of the node and in its helpers. -/
structure MissesNone (scope : Scope) : Prop where
  code : scope.emit.Says Opens
  helpers : ∀ template, scope.type.helperTemplate? = some template →
    (scope.render template).Says Opens

/-- Nodes that copy no uniforms need those that are joined with wires. -/
lemma JoinsUniforms.missesNone {scope : Scope} (hjoins : scope.JoinsUniforms)
    (hfile : scope.type.emitter scope.scene.settings ≠ .audioFile)
    (hanalyzer : scope.type.emitter scope.scene.settings ≠ .audioAnalyzer) : scope.MissesNone := by
  refine ⟨?_, fun template _ => opens_render hjoins template⟩
  unfold emit
  cases hemitter : scope.type.emitter scope.scene.settings with
  | nothing => exact .pure _
  | audioFile => exact absurd hemitter hfile
  | audioAnalyzer => exact absurd hemitter hanalyzer
  | swizzle => exact scope.opens_swizzleCode.bind fun _ => .pure _
  | template =>
    refine Traced.Says.bind ?_ fun _ => .pure _
    exact (Traced.Says.liftM _).bind fun _ => (opens_render hjoins _).bind fun _ => .pure _

variable {scope}

/-- What the code of a node brings up is known, if it misses no uniform. -/
lemma MissesNone.opens_body (h : scope.MissesNone) : scope.body.Says Opens := by
  unfold body
  refine h.code.bind fun code => ?_
  split
  · exact .pure _
  · exact (Traced.Says.liftM _).bind fun _ => .pure _

/-- What the helpers of a node bring up is known, if it misses no uniform. -/
lemma MissesNone.opens_helperCode (h : scope.MissesNone) : scope.helperCode.Says Opens := by
  unfold helperCode
  split
  · exact .pure _
  · next template htemplate =>
    exact (h.helpers template htemplate).bind fun _ => (Traced.Says.liftM _).bind fun _ => .pure _

end Scope

/-! ### Sections of a shader -/

namespace Scene

variable (scene : Scene)

/-- The declarations of outputs bring up known remarks. -/
lemma opens_declarations : scene.declarations.Says Opens := by
  have hnode : ∀ declared node, (scene.declareNode declared node).Says Opens := by
    intro declared node
    unfold declareNode
    simp only [String.append_assoc]
    split
    · exact .remark_pure (opens_append (by decide)) _
    · split
      · exact .remark_pure (opens_append (by decide)) _
      · exact (Traced.Says.liftM _).bind fun _ => .pure _
  have hwire : ∀ declared wire, (scene.declareSource declared wire).Says Opens := by
    intro declared wire
    unfold declareSource
    simp only [String.append_assoc]
    split
    · split
      · exact .pure _
      · exact .remark_pure (opens_append (by decide)) _
    · exact .pure _
  exact (Traced.Says.foldlM (fun declared node _ => hnode declared node) _).bind fun declared =>
    .foldlM (fun declared wire _ => hwire declared wire) declared

/-- The final color brings up known remarks. -/
lemma opens_finalColor : scene.finalColor.Says Opens := by
  have hsink : ∀ sink, (scene.sinkColor sink).Says Opens := by
    intro sink
    unfold sinkColor
    simp only [String.append_assoc]
    split
    · exact .fail _
    · split
      · exact .remark_pure (opens_append (by decide)) _
      · split
        · exact .lift _
        · exact .remark_pure (opens_append (by decide)) _
  have hblack : Opens "No node produces a color; rendering black" := by
    have hstart : "No node produces a color; rendering black" =
        "No node produces a color" ++ "; rendering black" := by decide
    rw [hstart]
    exact opens_append (by decide)
  unfold finalColor
  split
  · exact (hsink _).bind fun _ => .pure _
  · refine (Traced.Says.liftM _).bind fun color => ?_
    split
    · exact .pure _
    · refine (Traced.Says.liftM _).bind fun color => ?_
      split
      · exact .pure _
      · exact .remark_pure hblack _

/-- No node of the scene misses a uniform. -/
def MissesNone (scene : Scene) : Prop :=
  ∀ id scope, Scope.of? scene id = some scope → scope.MissesNone

variable {scene} (h : scene.MissesNone)

include h

/-- The blocks of the nodes bring up known remarks. -/
lemma MissesNone.opens_blocks : scene.blocks.Says Opens := by
  unfold blocks
  refine (Traced.Says.mapM fun id _ => ?_).bind fun _ => .pure _
  unfold block?
  simp only [String.append_assoc]
  split
  · split
    · exact .remark_pure (opens_append (by decide)) _
    · exact .pure _
  · next scope hof =>
    refine (h id scope hof).opens_body.bind fun code => ?_
    split
    · exact .pure _
    · split
      · exact .pure _
      · exact .pure _

lemma MissesNone.opens_program : scene.program.Says Opens := by
  have hhelpers : scene.helpers.Says Opens := by
    refine (Traced.Says.mapM fun scope hscope => ?_).bind fun _ => .pure _
    obtain ⟨id, -, hof⟩ := List.mem_filterMap.mp hscope
    exact (h id scope hof).opens_helperCode
  unfold program
  refine scene.opens_declarations.bind fun _ => h.opens_blocks.bind fun _ => ?_
  exact hhelpers.bind fun _ => .pure _

lemma MissesNone.opens_plan : scene.plan.Says Opens := by
  rw [plan_eq]
  refine Traced.Says.foldlM (fun plan users husers => ?_) _
  obtain ⟨first, -, rfl⟩ := mem_usersByType_iff.mp husers
  unfold planType
  split
  · exact .pure _
  · refine (Traced.Says.mapM fun user huser => ?_).bind fun _ => .pure _
    obtain ⟨scope, hscope, huser⟩ := List.mem_filterMap.mp (List.mem_filter.mp huser).1
    obtain ⟨id, -, hof⟩ := List.mem_filterMap.mp hscope
    obtain ⟨template, htemplate, rfl⟩ := Option.map_eq_some_iff.mp huser
    exact ((h id scope hof).helpers template htemplate).bind fun _ => .pure _

end Scene

/-! ### Warnings of a compilation -/

/-- The warnings that remarks leave with an author: those on the generated code, each once. -/
lemma Diagnostics.warnings_ofRemarks (remarks : List Remark) :
    (Diagnostics.ofRemarks remarks).warnings =
      ((remarks.filter fun remark => remark.stage == .generation).map fun remark =>
        warningEntry remark.message).eraseDups := by
  unfold Diagnostics.ofRemarks Notes.ofRemarks
  induction remarks using List.reverseRecOn with
  | nil => rfl
  | append_singleton remarks remark ih =>
    rw [List.foldl_append, List.foldl_cons, List.foldl_nil, List.filter_append, List.map_append]
    obtain ⟨stage, message⟩ := remark
    cases stage with
    | planning => exact ih.trans (by simp)
    | generation =>
      refine Diagnostics.warnings_warn.trans ?_
      rw [ih, List.filter_cons_of_pos rfl, List.filter_nil, List.map_singleton, eraseDups_concat]
      simp only [List.mem_eraseDups]

/-- Every warning is made of a remark. -/
lemma Diagnostics.exists_remark_of_mem_warnings {remarks : List Remark} {entry : String}
    (h : entry ∈ (Diagnostics.ofRemarks remarks).warnings) :
    ∃ remark ∈ remarks, warningEntry remark.message = entry := by
  rw [warnings_ofRemarks, List.mem_eraseDups] at h
  obtain ⟨remark, hremark, hentry⟩ := List.mem_map.mp h
  exact ⟨remark, (List.mem_filter.mp hremark).1, hentry⟩

/-- The warnings of a compilation are made of the remarks of its shader. -/
lemma warnings_compile (request : Request) : (compile request).diagnostics.warnings =
    (Diagnostics.ofRemarks request.shader.remarks).warnings := by
  unfold compile
  dsimp only
  split
  · rfl
  · rfl
  · rfl

namespace Request

variable {request : Request}

/-- What is said while a shader is made. -/
lemma opens_shader (h : ∀ scene, request.scene = .ok scene →
    ∀ renames, Scene.MissesNone { scene with renames }) : request.shader.Says Opens := by
  have hempty : Opens "Graph is empty; rendering black" := by
    have hstart : "Graph is empty; rendering black" = "Graph is empty" ++ "; rendering black" := by
      decide
    rw [hstart]
    exact opens_append (by decide)
  have hloose : ∀ nodes : List Node, (nodes.forM looseRemark).Says Opens := by
    intro nodes
    induction nodes with
    | nil => exact .pure _
    | cons node nodes ih =>
      refine Traced.Says.bind ?_ fun _ => ih
      unfold looseRemark
      simp only [String.append_assoc]
      exact .remark (opens_append (by decide))
  have hplan : ∀ scene : Scene, scene.MissesNone → (request.plan scene).Says Opens := by
    intro scene hscene
    unfold plan
    split
    · exact .pure _
    · exact hscene.opens_plan.inStage _
  unfold shader
  refine (Traced.Says.remarkIf hempty _).bind fun _ => ?_
  refine (Traced.Says.liftM _).bind_of_ok fun scene hscene => ?_
  refine (hloose _).bind fun _ => ?_
  refine (hplan scene (h scene hscene scene.renames)).bind fun renames => ?_
  refine (h scene hscene renames).opens_program.bind fun program => ?_
  refine (Scene.opens_finalColor _).bind fun color => ?_
  exact (Traced.Says.liftM _).bind fun _ => .pure _

/-- Whatever a compilation warns of has one of the openings, when no node misses a uniform. -/
theorem exists_opens_of_mem_warnings (h : ∀ scene, request.scene = .ok scene →
      ∀ renames, Scene.MissesNone { scene with renames }) {entry : String}
    (hentry : entry ∈ (compile request).diagnostics.warnings) :
    ∃ message, entry = Diagnostics.warningEntry message ∧ Opens message := by
  rw [warnings_compile] at hentry
  obtain ⟨remark, hremark, rfl⟩ := Diagnostics.exists_remark_of_mem_warnings hentry
  exact ⟨remark.message, rfl, opens_shader h remark hremark⟩

end Request

end ShaderLoom
