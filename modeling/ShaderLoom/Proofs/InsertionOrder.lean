import ShaderLoom.Proofs.AllocatedUniforms
import ShaderLoom.Proofs.DeclaredOutputs
import ShaderLoom.Proofs.EmissionAgreement
import ShaderLoom.Proofs.HelperIsolation
import ShaderLoom.Proofs.Requests

/-!
# The order in which nodes were added

The order in which nodes run decides about the code, and the order in which they were added to the
graph does not.  Both orders of nodes lead to scenes that agree; therefore names, blocks and
helpers are the same, and the declarations of outputs come in another order at most.
-/

namespace ShaderLoom

/-! ### Requests with the same nodes -/

namespace Request

/-- The request with its nodes in another order. -/
def withNodes (request : Request) (nodes : List Node) : Request :=
  { request with graph := { request.graph with nodes } }

/-- The ids of nodes differ, all nodes run, names tell places apart, and every output has a
variable of its own. -/
structure Orderly (request : Request) : Prop where
  ids : (request.graph.nodes.map Node.id).Nodup
  runs : ∀ node ∈ request.graph.nodes, node.id ∈ request.order
  dotFree : request.catalog.DotFree
  distinct : ∀ variableNames, Variables.generate request.graph request.catalog request.settings =
    .ok variableNames → variableNames.names.Nodup

/-- Helpers are written in the order in which nodes run, when all nodes do. -/
lemma Generation.emissionOrder_eq {request : Request} (generation : request.Generation)
    (hruns : ∀ node ∈ request.graph.nodes, node.id ∈ request.order) :
    generation.scene.emissionOrder = request.order := by
  have hscene := isScene_of_scene generation.scene_eq
  have hnone : (request.graph.nodes.map Node.id).filter (fun id => !request.order.contains id) =
      [] := by
    refine List.filter_eq_nil_iff.mpr fun id hid => ?_
    obtain ⟨node, hnode, rfl⟩ := List.mem_map.mp hid
    simpa using hruns node hnode
  unfold Scene.emissionOrder
  rw [hscene.graph, hscene.order, hnone, List.append_nil]

/-- The outputs of a generation are named, if their variables differ. -/
lemma Generation.outputsNamed {request : Request} (generation : request.Generation)
    (hids : (request.graph.nodes.map Node.id).Nodup)
    (hdistinct : ∀ node port node' port' name,
      generation.scene.variableNames.lookup node port = some name →
      generation.scene.variableNames.lookup node' port' = some name →
        node = node' ∧ port = port') :
    (generation.scene.withRenames generation.plan).OutputsNamed := by
  have hscene := isScene_of_scene generation.scene_eq
  refine ⟨?_, ?_, hdistinct⟩
  · show (generation.scene.graph.nodes.map Node.id).Nodup
    rw [hscene.graph]
    exact hids
  · show Variables.generate generation.scene.graph generation.scene.catalog
      generation.scene.settings = .ok generation.scene.variableNames
    rw [hscene.graph, hscene.catalog, hscene.settings]
    exact hscene.named

section Permuted

variable {request : Request} {nodes : List Node} (h : request.Orderly)
  (hnodes : request.graph.nodes.Perm nodes) (generation : request.Generation)
  (generation' : (request.withNodes nodes).Generation)

include h hnodes

omit h hnodes in
/-- Both tables of uniforms are the caller's, or both are allocated. -/
lemma Generation.uniforms_eq_or_allocated :
    generation.scene.uniforms = generation'.scene.uniforms ∨
      Uniform.allocate request.graph request.catalog request.settings =
          .ok generation.scene.uniforms ∧
        Uniform.allocate (request.withNodes nodes).graph request.catalog request.settings =
          .ok generation'.scene.uniforms := by
  rcases (isScene_of_scene generation.scene_eq).uniforms with hnamed | ⟨hnone, hallocated⟩
  · rcases (isScene_of_scene generation'.scene_eq).uniforms with hnamed' | ⟨hnone', -⟩
    · have hsame : some generation.scene.uniforms = some generation'.scene.uniforms :=
        hnamed.symm.trans hnamed'
      exact Or.inl (Option.some.inj hsame)
    · have hsame : some generation.scene.uniforms = none := hnamed.symm.trans hnone'
      cases hsame
  · rcases (isScene_of_scene generation'.scene_eq).uniforms with hnamed' | ⟨-, hallocated'⟩
    · have hsame : some generation'.scene.uniforms = none := hnamed'.symm.trans hnone
      cases hsame
    · exact Or.inr ⟨hallocated, hallocated'⟩

/-- The two tables of uniforms are the same map. -/
lemma Orderly.uniforms_eq (key : String) :
    generation.scene.uniforms.find? key = generation'.scene.uniforms.find? key := by
  rcases Generation.uniforms_eq_or_allocated generation generation' with
    hsame | ⟨hallocated, hallocated'⟩
  · rw [hsame]
  · have hwires : request.graph.wires = (request.withNodes nodes).graph.wires := rfl
    exact Uniform.find?_allocate_of_perm h.dotFree hnodes hwires hallocated hallocated' key

/-- The same uniforms are found in a piece of code. -/
lemma Orderly.used_eq (code : List Char) :
    Uniform.used code generation.scene.uniforms = Uniform.used code generation'.scene.uniforms := by
  rcases Generation.uniforms_eq_or_allocated generation generation' with
    hsame | ⟨hallocated, hallocated'⟩
  · rw [hsame]
  · exact Uniform.used_congr (Uniform.nodup_keys_allocate hallocated)
      (Uniform.nodup_keys_allocate hallocated') (h.uniforms_eq hnodes generation generation') code

/-- The two scenes give the same answers. -/
lemma Orderly.agrees : generation.scene.Agrees generation'.scene := by
  have hscene := isScene_of_scene generation.scene_eq
  have hscene' := isScene_of_scene generation'.scene_eq
  have hids' : (nodes.map Node.id).Nodup := (hnodes.map Node.id).nodup_iff.mp h.ids
  constructor
  · rw [hscene.graph, hscene'.graph]
    rfl
  · intro id
    unfold Scene.node?
    rw [hscene.graph, hscene'.graph]
    exact Graph.node?_congr h.ids hids' fun node _ => hnodes.mem_iff
  · exact hscene.catalog.trans hscene'.catalog.symm
  · intro id
    exact Variables.ports_congr h.ids hscene.named hids' hscene'.named fun node _ => hnodes.mem_iff
  · exact hscene.order.trans hscene'.order.symm
  · exact h.uniforms_eq hnodes generation generation'
  · exact hscene.settings.trans hscene'.settings.symm

/-- The nodes are emitted in the same order. -/
lemma Orderly.emissionOrder_eq :
    generation.scene.emissionOrder = generation'.scene.emissionOrder := by
  rw [generation.emissionOrder_eq h.runs, generation'.emissionOrder_eq fun node hnode =>
    h.runs node (hnodes.mem_iff.mpr hnode)]
  rfl

/-- The two plans are the same. -/
lemma Orderly.plan_eq : generation.plan = generation'.plan := by
  have hemission := h.emissionOrder_eq hnodes generation generation'
  have hplan : request.plan generation.scene =
      (request.withNodes nodes).plan generation'.scene := by
    unfold plan
    rw [(h.agrees hnodes generation generation').plan_eq hemission]
    rfl
  have hsame := generation.plan_eq
  rw [hplan, generation'.plan_eq] at hsame
  exact (Except.ok.inj hsame).symm

/-- The two scenes write the same blocks and the same helpers. -/
lemma Orderly.code_eq : generation.program.mainCode = generation'.program.mainCode ∧
    generation.program.helpers = generation'.program.helpers := by
  have hagrees : (generation.scene.withRenames generation.plan).Agrees
      (generation'.scene.withRenames generation'.plan) :=
    (h.agrees hnodes generation generation').withRenames _ _
  have hrenames : ∀ id, (generation.scene.withRenames generation.plan).renamesOf id =
      (generation'.scene.withRenames generation'.plan).renamesOf id := by
    intro id
    rw [h.plan_eq hnodes generation generation']
    rfl
  have hemission : (generation.scene.withRenames generation.plan).emissionOrder =
      (generation'.scene.withRenames generation'.plan).emissionOrder :=
    h.emissionOrder_eq hnodes generation generation'
  obtain ⟨_, blocks, helpers, -, hblocks, hhelpers, hprogram⟩ :=
    Scene.exists_of_program generation.program_eq
  obtain ⟨_, blocks', helpers', -, hblocks', hhelpers', hprogram'⟩ :=
    Scene.exists_of_program generation'.program_eq
  rw [hagrees.blocks_eq hrenames, hblocks'] at hblocks
  rw [hagrees.helpers_eq hemission hrenames, hhelpers'] at hhelpers
  cases hblocks
  cases hhelpers
  rw [hprogram, hprogram']
  exact ⟨rfl, rfl⟩

/-- The same uniforms are declared. -/
lemma Orderly.uniformText_eq : generation.uniformText = generation'.uniformText := by
  obtain ⟨hmain, hhelpers⟩ := h.code_eq hnodes generation generation'
  have hrecords := generation.records_eq
  rw [hmain, hhelpers, h.used_eq hnodes generation generation'] at hrecords
  exact Uniform.declarations_of_perm hnodes (h.uniforms_eq hnodes generation generation') hrecords
    generation'.records_eq

omit hnodes in
/-- The outputs of the first generation are named. -/
lemma Orderly.outputsNamed : (generation.scene.withRenames generation.plan).OutputsNamed := by
  have hscene := isScene_of_scene generation.scene_eq
  refine generation.outputsNamed h.ids ?_
  exact Variables.unique_of_nodup_names (h.distinct _ hscene.named)

include generation in
/-- The outputs of the second generation are named. -/
lemma Orderly.outputsNamed_withNodes :
    (generation'.scene.withRenames generation'.plan).OutputsNamed := by
  have hagrees := h.agrees hnodes generation generation'
  have hids : ((request.withNodes nodes).graph.nodes.map Node.id).Nodup :=
    (hnodes.map Node.id).nodup_iff.mp h.ids
  refine generation'.outputsNamed hids fun node port node' port' name hlookup hlookup' => ?_
  -- the variables are those of the other scene
  rw [← hagrees.lookup] at hlookup hlookup'
  exact (h.outputsNamed generation).distinct node port node' port' name hlookup hlookup'

omit h in
/-- The same outputs are declared. -/
lemma Generation.declaresOutput_iff (node : Node) (d : Declaration) :
    (generation.scene.withRenames generation.plan).DeclaresOutput node d ↔
      (generation'.scene.withRenames generation'.plan).DeclaresOutput node d := by
  have hscene := isScene_of_scene generation.scene_eq
  have hscene' := isScene_of_scene generation'.scene_eq
  have hexposes : ∀ type port, generation.scene.Exposes node type port ↔
      generation'.scene.Exposes node type port := by
    intro type port
    unfold Scene.Exposes Graph.Exposes
    rw [hscene.graph, hscene'.graph, hscene.catalog, hscene'.catalog, hscene.settings,
      hscene'.settings]
    exact and_congr_left fun _ => hnodes.mem_iff
  unfold Scene.DeclaresOutput
  exact exists₂_congr fun type port => and_congr_left fun _ => hexposes type port

/-- The lines of the declarations are the same but for their order. -/
lemma Orderly.declarations_perm :
    ∃ lines lines', IsLines generation.program.declarations lines ∧
      IsLines generation'.program.declarations lines' ∧ lines.Perm lines' := by
  obtain ⟨declared, -, hlines, hnames, hmem⟩ :=
    (h.outputsNamed generation).exists_lines generation.program_eq
  obtain ⟨declared', -, hlines', hnames', hmem'⟩ :=
    (h.outputsNamed_withNodes hnodes generation generation').exists_lines generation'.program_eq
  refine ⟨_, _, hlines, hlines', List.Perm.map _ ?_⟩
  refine (List.perm_ext_iff_of_nodup (hnames.of_map _) (hnames'.of_map _)).mpr fun d => ?_
  rw [hmem, hmem']
  exact exists_congr fun node =>
    Generation.declaresOutput_iff hnodes generation generation' node d

end Permuted

/-- Two generations write the same code: the same names, blocks and helpers, and the same
declarations up to their order. -/
structure SameCode {request request' : Request} (generation : request.Generation)
    (generation' : request'.Generation) : Prop where
  uniforms : ∀ key, generation.scene.uniforms.find? key = generation'.scene.uniforms.find? key
  plan : ∀ id, generation.plan.find? id = generation'.plan.find? id
  mainCode : generation.program.mainCode = generation'.program.mainCode
  helpers : generation.program.helpers = generation'.program.helpers
  uniformText : generation.uniformText = generation'.uniformText
  declarations : ∃ lines lines', IsLines generation.program.declarations lines ∧
    IsLines generation'.program.declarations lines' ∧ lines.Perm lines'

/-- The order in which nodes were added to a graph does not change the code. -/
theorem sameCode_of_perm {request : Request} (h : request.Orderly) {nodes : List Node}
    (hnodes : request.graph.nodes.Perm nodes) (generation : request.Generation)
    (generation' : (request.withNodes nodes).Generation) : SameCode generation generation' := by
  obtain ⟨hmain, hhelpers⟩ := h.code_eq hnodes generation generation'
  refine ⟨h.uniforms_eq hnodes generation generation', fun id => ?_, hmain, hhelpers,
    h.uniformText_eq hnodes generation generation',
    h.declarations_perm hnodes generation generation'⟩
  rw [h.plan_eq hnodes generation generation']

/-- Two tints, one after the other, that were added in the opposite order. -/
def chainedTints : Request where
  graph :=
    { nodes := [⟨"b", "tint", Table.empty, Table.empty⟩, ⟨"a", "tint", Table.empty, Table.empty⟩]
      wires := [⟨"a", "out", "b", .port "in"⟩] }
  catalog := ⟨Table.ofList [("tint",
    { id := "tint", displayName := "Tint", category := "Color"
      inputs := [⟨"in", .float, none⟩], outputs := [⟨"out", .float, none⟩]
      parameters := Table.ofList
        [("strength", ⟨.float, .int 1, .null, .null, .null, none, none⟩)]
      mainCode := "$output.out = scale($input.in);"
      functions := some "float scale(float x) \x7b return x * $param.strength; \x7d"
      description := "" })]⟩
  settings := {}
  order := ["a", "b"]
  uniforms := none
  renames := none

lemma orderly_chainedTints : chainedTints.Orderly where
  ids := by decide
  runs := by decide
  dotFree := by
    have hall : chainedTints.catalog.types.entries.all (fun entry =>
        entry.2.outputs.all (fun port => !port.name.toList.contains '.') &&
          entry.2.parameters.keys.all fun name => !name.toList.contains '.') = true := by decide
    intro id type htype
    have hentry := List.all_eq_true.mp hall (id, type) (Table.mem_entries_of_find? htype)
    simpa using hentry
  distinct := by
    have hnodup : ((Variables.generate chainedTints.graph chainedTints.catalog
        chainedTints.settings).toOption.map fun variableNames =>
          decide variableNames.names.Nodup) = some true := by decide +kernel
    intro variableNames hvariables
    rw [hvariables] at hnodup
    exact of_decide_eq_true (Option.some.inj hnodup)

/-- The second of the two nodes gets a helper of its own, in whatever order they were added. -/
theorem sameCode_of_perm_chainedTints :
    chainedTints.Orderly ∧ ∃ (generation : chainedTints.Generation)
      (generation' : (chainedTints.withNodes chainedTints.graph.nodes.reverse).Generation),
      (generation.plan.find? "b").map Table.entries = some [("scale", "scale_b")] ∧
        SameCode generation generation' := by
  have hentry : ((compile chainedTints).outcome.toOption.bind fun compiled =>
      (compiled.renames.find? "b").map Table.entries) = some [("scale", "scale_b")] := by
    decide +kernel
  have hreversed : (compile (chainedTints.withNodes
      chainedTints.graph.nodes.reverse)).outcome.toOption.isSome = true := by
    decide +kernel
  cases hcompiled : (compile chainedTints).outcome with
  | error fault =>
    rw [hcompiled] at hentry
    cases hentry
  | ok compiled =>
    rw [hcompiled] at hentry
    obtain ⟨generation, -, -, -, hplan⟩ := exists_generation_of_compile hcompiled
    obtain ⟨generation', -⟩ :=
      exists_generation_of_compile (eq_ok_of_isSome_toOption default hreversed)
    refine ⟨orderly_chainedTints, generation, generation', ?_, ?_⟩
    · rw [← hplan]
      exact hentry
    · exact sameCode_of_perm orderly_chainedTints (List.reverse_perm _).symm generation generation'

end Request

end ShaderLoom
