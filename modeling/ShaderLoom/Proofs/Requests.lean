import ShaderLoom.Compilation
import ShaderLoom.Proofs.Outcomes
import ShaderLoom.Proofs.SceneAgreement

/-!
# The stages of a request

A request becomes a scene, the scene a plan, and the scene with the names of the plan a shader.
What the stages of a successful request produce is kept in one place, so that it can be compared
with what another request produces.
-/

namespace ShaderLoom

namespace Request

variable {request : Request}

/-! ### The scene -/

/-- The scene of a request with the given uniforms. -/
def sceneWith (request : Request) (uniforms : Table String) : Except Fault Scene := do
  let variableNames ← Variables.generate request.graph request.catalog request.settings
  return {
    graph := request.graph
    catalog := request.catalog
    variableNames
    order := request.order
    uniforms
    renames := Table.empty
    settings := request.settings }

/-- With the caller's uniforms the scene is made with them. -/
lemma scene_of_named {table : Table String} (h : request.uniforms = some table) :
    request.scene = request.sceneWith table := by
  unfold scene
  rw [h]
  rfl

/-- Without the caller's uniforms they are allocated. -/
lemma scene_of_allocated (h : request.uniforms = none) :
    request.scene =
      Uniform.allocate request.graph request.catalog request.settings >>= request.sceneWith := by
  unfold scene
  rw [h]
  rfl

/-- The parts of a scene come from the request that it belongs to. -/
structure IsScene (request : Request) (scene : Scene) : Prop where
  graph : scene.graph = request.graph
  catalog : scene.catalog = request.catalog
  order : scene.order = request.order
  settings : scene.settings = request.settings
  named : Variables.generate request.graph request.catalog request.settings =
    .ok scene.variableNames
  uniforms : request.uniforms = some scene.uniforms ∨ request.uniforms = none ∧
    Uniform.allocate request.graph request.catalog request.settings = .ok scene.uniforms

/-- The scene of a request has its graph, catalog, order and settings. -/
lemma isScene_of_scene {scene : Scene} (h : request.scene = .ok scene) :
    request.IsScene scene := by
  have hwith : ∃ uniforms, request.sceneWith uniforms = .ok scene ∧
      (request.uniforms = some uniforms ∨ request.uniforms = none ∧
        Uniform.allocate request.graph request.catalog request.settings = .ok uniforms) := by
    cases huniforms : request.uniforms with
    | some table =>
      rw [scene_of_named huniforms] at h
      exact ⟨table, h, Or.inl rfl⟩
    | none =>
      rw [scene_of_allocated huniforms] at h
      obtain ⟨uniforms, hallocate, h⟩ := bind_eq_ok_iff.mp h
      exact ⟨uniforms, h, Or.inr ⟨rfl, hallocate⟩⟩
  obtain ⟨uniforms, hwith, huniforms⟩ := hwith
  unfold sceneWith at hwith
  obtain ⟨variableNames, hvariables, hwith⟩ := bind_eq_ok_iff.mp hwith
  cases hwith
  exact ⟨rfl, rfl, rfl, rfl, hvariables, huniforms⟩

/-! ### The shader -/

/-- Remarks on nodes without wires stop nothing. -/
lemma outcome_looseRemarks (nodes : List Node) :
    (nodes.forM looseRemark).outcome = .ok () := by
  induction nodes with
  | nil => rfl
  | cons node rest ih =>
    show (looseRemark node >>= fun _ => rest.forM looseRemark).outcome = .ok ()
    rw [Traced.outcome_bind]
    exact ih

/-- The shader of a request whose scene is known. -/
def shaderOf (request : Request) (scene : Scene) : Traced Compiled := do
  let renames ← request.plan scene
  let scene := scene.withRenames renames
  let program ← scene.program
  let color ← scene.finalColor
  let used := Uniform.used (program.mainCode ++ "\n" ++ program.helpers).toList scene.uniforms
  let records ← Uniform.records request.graph request.catalog scene.uniforms (some used)
    request.settings
  let uniforms := Uniform.declarations (records.map fun record => (record.type, record.name))
  return {
    shader := shaderText request.settings uniforms program color.expression
    uniforms := records
    order := request.order
    finalNode := color.node
    uniformNames := scene.uniforms
    renames }

lemma outcome_shader (request : Request) :
    request.shader.outcome = request.scene >>= fun scene => (request.shaderOf scene).outcome := by
  have hloose : ∀ scene, (do
      request.graph.loose.forM looseRemark
      request.shaderOf scene).outcome = (request.shaderOf scene).outcome := by
    intro scene
    rw [Traced.outcome_bind, outcome_looseRemarks]
    rfl
  show (Traced.remarkIf _ _ >>= fun _ => liftM request.scene >>= fun scene =>
    (do request.graph.loose.forM looseRemark; request.shaderOf scene)).outcome = _
  rw [Traced.outcome_bind, Traced.outcome_remarkIf]
  show (liftM request.scene >>= fun scene =>
    (do request.graph.loose.forM looseRemark; request.shaderOf scene)).outcome = _
  rw [Traced.outcome_bind, Traced.outcome_liftM, funext hloose]

/-- Without the caller's names they are planned. -/
lemma outcome_plan (h : request.renames = none) (scene : Scene) :
    (request.plan scene).outcome = scene.plan.outcome := by
  unfold plan
  rw [h]
  rfl

end Request

lemma outcome_compile (request : Request) :
    (compile request).outcome = request.shader.outcome := by
  unfold compile
  dsimp only
  split
  · next h => rw [h]
  · next h => rw [h]
  · next h => rw [h]

/-! ### What a successful request produces -/

namespace Request

/-- The products of the stages of a request, all of which succeed. -/
structure Generation (request : Request) where
  scene : Scene
  plan : Table (Table String)
  program : Program
  records : List Uniform.Record
  scene_eq : request.scene = .ok scene
  plan_eq : (request.plan scene).outcome = .ok plan
  program_eq : (scene.withRenames plan).program.outcome = .ok program
  records_eq : Uniform.records request.graph request.catalog scene.uniforms
    (some (Uniform.used (program.mainCode ++ "\n" ++ program.helpers).toList scene.uniforms))
    request.settings = .ok records

/-- The declarations of the uniforms that are used. -/
def Generation.uniformText {request : Request} (generation : request.Generation) : String :=
  Uniform.declarations (generation.records.map fun record => (record.type, record.name))

/-- A compiled shader is put together from the products of the stages and the final color. -/
theorem exists_color_of_compile {request : Request} {compiled : Compiled}
    (h : (compile request).outcome = .ok compiled) :
    ∃ (generation : request.Generation) (color : FinalColor),
      compiled.shader =
        shaderText request.settings generation.uniformText generation.program color.expression ∧
      (generation.scene.withRenames generation.plan).finalColor.outcome = .ok color ∧
      compiled.uniformNames = generation.scene.uniforms ∧
      compiled.renames = generation.plan ∧ compiled.uniforms = generation.records := by
  rw [outcome_compile, outcome_shader] at h
  obtain ⟨scene, hscene, h⟩ := bind_eq_ok_iff.mp h
  unfold shaderOf at h
  rw [Traced.outcome_bind] at h
  obtain ⟨plan, hplan, h⟩ := bind_eq_ok_iff.mp h
  rw [Traced.outcome_bind] at h
  obtain ⟨program, hprogram, h⟩ := bind_eq_ok_iff.mp h
  rw [Traced.outcome_bind] at h
  obtain ⟨color, hcolor, h⟩ := bind_eq_ok_iff.mp h
  rw [Traced.outcome_bind] at h
  obtain ⟨records, hrecords, h⟩ := bind_eq_ok_iff.mp h
  rw [Traced.outcome_pure] at h
  have hcompiled := Except.ok.inj h
  subst hcompiled
  let generation : request.Generation :=
    ⟨scene, plan, program, records, hscene, hplan, hprogram, hrecords⟩
  exact ⟨generation, color, rfl, hcolor, rfl, rfl, rfl⟩

/-- The products without the node that the color comes from. -/
theorem exists_products_of_compile {request : Request} {compiled : Compiled}
    (h : (compile request).outcome = .ok compiled) :
    ∃ (generation : request.Generation) (color : String),
      compiled.shader =
        shaderText request.settings generation.uniformText generation.program color ∧
      compiled.uniformNames = generation.scene.uniforms ∧
      compiled.renames = generation.plan ∧ compiled.uniforms = generation.records := by
  obtain ⟨generation, color, hshader, -, hrest⟩ := exists_color_of_compile h
  exact ⟨generation, color.expression, hshader, hrest⟩

/-- The part of the products that the text of the shader is made from. -/
theorem exists_generation_of_compile {request : Request} {compiled : Compiled}
    (h : (compile request).outcome = .ok compiled) :
    ∃ (generation : request.Generation) (color : String),
      compiled.shader =
        shaderText request.settings generation.uniformText generation.program color ∧
      compiled.uniformNames = generation.scene.uniforms ∧
      compiled.renames = generation.plan := by
  obtain ⟨generation, color, hshader, hnames, hrenames, -⟩ := exists_products_of_compile h
  exact ⟨generation, color, hshader, hnames, hrenames⟩

end Request

end ShaderLoom
