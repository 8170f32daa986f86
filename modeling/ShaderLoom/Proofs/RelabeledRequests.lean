import ShaderLoom.Proofs.AllocatedUniforms
import ShaderLoom.Proofs.EmissionAgreement
import ShaderLoom.Proofs.OutputVariables
import ShaderLoom.Proofs.RelabeledNodes
import ShaderLoom.Proofs.Requests

/-!
# Requests under other ids

A request whose nodes have other ids, and whose node types have other titles, is compared with the
request stage by stage: the same names are given to outputs, uniforms and helpers, and the blocks
have the same code.
-/

namespace ShaderLoom

/-! ### The blocks of a scene -/

namespace Relabeling

variable (ρ : Relabeling)

/-- The scope of a node under its new id, in the scene with the new ids. -/
def scopeIn (scene : Scene) (scope : Scope) : Scope where
  scene
  node := ρ.onNode scope.node
  type := (scene.catalog.find? scope.node.type).getD scope.type

/-- A block under the new id and the new title of its node. -/
def blockIn (scene : Scene) (block : Block) : Block :=
  { block with
    displayName := ((scene.typeOf? (ρ.label block.node)).map NodeType.displayName).getD ""
    node := ρ.label block.node }

/-- A node with helpers under its new id. -/
def userIn (scene : Scene) (user : HelperUser) : HelperUser :=
  ⟨ρ.scopeIn scene user.scope, user.template⟩

end Relabeling

namespace Scene.Relabels

variable {ρ : Relabeling} {a b : Scene} (h : a.Relabels ρ b)

include h

/-- The scope of a node is found under its new id. -/
lemma of?_eq (id : String) :
    Scope.of? b (ρ.label id) = (Scope.of? a id).map (ρ.scopeIn b) := by
  unfold Scope.of?
  rw [h.node?]
  cases a.node? id with
  | none => rfl
  | some node =>
    rcases h.catalog.find?_cases node.type with ⟨ha, hb⟩ | ⟨type, title, ha, hb⟩
    · have hb' : b.catalog.find? (ρ.onNode node).type = none := hb
      simp [ha, hb']
    · have hb' : b.catalog.find? (ρ.onNode node).type = some (type.titled title) := hb
      simp [ha, hb, hb', Relabeling.scopeIn]

/-- A scope and its image differ in ids and titles only. -/
lemma relabels_scopeIn {id : String} {scope : Scope} (hof : Scope.of? a id = some scope) :
    scope.Relabels ρ (ρ.scopeIn b scope) := by
  obtain ⟨node, type, -, htype, rfl⟩ := Scope.of?_eq_some_iff.mp hof
  refine ⟨h, rfl, ?_, node.type, htype⟩
  rcases h.catalog.find?_cases node.type with ⟨ha, -⟩ | ⟨type', title, ha, hb⟩
  · rw [htype] at ha
    cases ha
  · rw [htype] at ha
    cases ha
    exact ⟨title, by simp [Relabeling.scopeIn, hb]⟩

/-- The block of a node is the old one under the new id and title. -/
lemma value?_block? (hrenames : ∀ id, b.renamesOf (ρ.label id) = a.renamesOf id) (id : String) :
    (b.block? (ρ.label id)).value? = (a.block? id).value?.map (Option.map (ρ.blockIn b)) := by
  unfold block?
  rw [h.of?_eq, h.node?]
  cases hof : Scope.of? a id with
  | none =>
    cases a.node? id with
    | none => simp only [Option.map_none, Traced.value?_remark_bind, Traced.value?_pure,
        Option.map_some]
    | some node => rfl
  | some scope =>
    have hscope := h.relabels_scopeIn hof
    have hbody : (ρ.scopeIn b scope).body.value? = scope.body.value? := by
      refine hscope.value?_body ?_
      rw [hscope.id]
      have hscene : scope.scene = a := by
        obtain ⟨node, type, -, -, rfl⟩ := Scope.of?_eq_some_iff.mp hof
        rfl
      rw [hscene]
      exact hrenames scope.node.id
    -- the title in the second block is that of the second scene
    have htype : b.typeOf? (ρ.label id) = some (ρ.scopeIn b scope).type :=
      Scene.typeOf?_of_of? (by rw [h.of?_eq, hof, Option.map_some])
    rw [Option.map_some]
    dsimp only
    rw [Traced.value?_bind, Traced.value?_bind, hbody]
    cases scope.body.value? with
    | none => rfl
    | some code? =>
      cases code? with
      | none => rfl
      | some code =>
        simp only [Option.bind_some]
        split
        · rfl
        · simp [Relabeling.blockIn, htype]

/-- The nodes have blocks with the same code, in the same order. -/
theorem value?_blocks (hrenames : ∀ id, b.renamesOf (ρ.label id) = a.renamesOf id) :
    b.blocks.value? = a.blocks.value?.map (List.map (ρ.blockIn b)) := by
  unfold blocks
  rw [Traced.value?_bind, Traced.value?_bind, h.order,
    Traced.value?_mapM_map fun id _ => h.value?_block? hrenames id]
  cases (a.order.mapM a.block?).value? with
  | none => rfl
  | some found => simp [List.filterMap_map, List.map_filterMap]

/-! ### The plan of a scene -/

lemma emissionOrder : b.emissionOrder = a.emissionOrder.map ρ.label := by
  unfold Scene.emissionOrder
  have hids : (ρ.onGraph a.graph).nodes.map Node.id = (a.graph.nodes.map Node.id).map ρ.label := by
    rw [Relabeling.onGraph, List.map_map, List.map_map]
    rfl
  rw [h.graph, hids, h.order, List.map_append, List.filter_map]
  refine congrArg (fun p => _ ++ List.map ρ.label (List.filter p _)) (funext fun id => ?_)
  rw [Function.comp_apply, Bool.eq_iff_iff]
  simp [ρ.injective.eq_iff]

lemma helperUsers : b.helperUsers = a.helperUsers.map (ρ.userIn b) := by
  have hof : Scope.of? b ∘ ρ.label = fun id => (Scope.of? a id).map (ρ.scopeIn b) :=
    funext h.of?_eq
  unfold Scene.helperUsers
  rw [h.emissionOrder, List.filterMap_map, hof, ← List.map_filterMap, List.filterMap_map,
    List.map_filterMap]
  refine List.filterMap_congr fun scope hscope => ?_
  obtain ⟨id, -, hof⟩ := List.mem_filterMap.mp hscope
  obtain ⟨title, htype⟩ := (h.relabels_scopeIn hof).type
  have htemplate : (ρ.scopeIn b scope).type.helperTemplate? = scope.type.helperTemplate? := by
    rw [htype]
    rfl
  rw [Function.comp_apply, htemplate, Option.map_map]
  rfl

/-- A node has the same variant of its helpers. -/
lemma value?_variant {user : HelperUser} (huser : user ∈ a.helperUsers) :
    (ρ.userIn b user).variant.value? =
      user.variant.value?.map fun variant => (ρ.label variant.1, variant.2) := by
  obtain ⟨-, hof, -⟩ := Scene.mem_helperUsers_iff.mp huser
  have hrender := (h.relabels_scopeIn hof).value?_render user.template
  unfold HelperUser.variant Relabeling.userIn
  rw [Traced.value?_bind, Traced.value?_bind, hrender]
  cases (user.scope.render user.template).value? <;> rfl

omit h in
/-- The members of a group get the same names under their new ids. -/
lemma onTable_planGroup (names : List String) (plan : Table (Table String))
    (members : List String) :
    planGroup names (ρ.onTable plan) (members.map ρ.label) =
      ρ.onTable (planGroup names plan members) := by
  cases members with
  | nil => rfl
  | cons first rest =>
    have hsuffixed : suffixed names (ρ.label first) = suffixed names first := by
      unfold suffixed
      rw [ρ.clean_label]
    unfold planGroup
    rw [List.map_cons]
    dsimp only
    rw [← List.map_cons, hsuffixed, List.foldl_map]
    exact List.foldl_hom ρ.onTable fun plan id => (ρ.onTable_insert plan id _).symm

/-- The users of a type get the same names under their new ids. -/
lemma value?_planType {users : List HelperUser} (husers : ∀ user ∈ users, user ∈ a.helperUsers)
    (plan : Table (Table String)) :
    (planType (ρ.onTable plan) (users.map (ρ.userIn b))).value? =
      (planType plan users).value?.map ρ.onTable := by
  have hvariants : ((users.map (ρ.userIn b)).mapM HelperUser.variant).value? =
      (users.mapM HelperUser.variant).value?.map
        (List.map fun variant => (ρ.label variant.1, variant.2)) :=
    Traced.value?_mapM_map fun user huser => h.value?_variant (husers user huser)
  cases users with
  | nil => rfl
  | cons first rest =>
    rw [List.map_cons] at hvariants ⊢
    unfold planType
    dsimp only
    rw [Traced.value?_bind, Traced.value?_bind, hvariants]
    cases ((first :: rest).mapM HelperUser.variant).value? with
    | none => rfl
    | some variants =>
      have hgroups : (groupOn Prod.snd (variants.map fun variant =>
            (ρ.label variant.1, variant.2))).map (fun group => group.2.map Prod.fst) =
          ((groupOn Prod.snd variants).map fun group => group.2.map Prod.fst).map
            (List.map ρ.label) := by
        rw [groupOn_map (fun _ => rfl), List.map_map, List.map_map]
        refine List.map_congr_left fun group _ => ?_
        simp
      rw [Option.map_some, Option.bind_some, Option.bind_some, Traced.value?_pure,
        Traced.value?_pure, Option.map_some, hgroups, ← List.map_tail, List.foldl_map]
      exact congrArg some (List.foldl_hom ρ.onTable fun plan ids => onTable_planGroup _ plan ids)

/-- The helpers of a node are given the same names under its new id. -/
theorem value?_plan : b.plan.value? = a.plan.value?.map ρ.onTable := by
  have husers : b.usersByType = a.usersByType.map (List.map (ρ.userIn b)) := by
    unfold Scene.usersByType
    rw [h.helperUsers, List.map_map, List.map_map]
    refine List.map_congr_left fun type _ => ?_
    rw [Function.comp_apply, List.filter_map]
    rfl
  rw [Scene.plan_eq, Scene.plan_eq, husers]
  have hmem : ∀ users ∈ a.usersByType, ∀ user ∈ users, user ∈ a.helperUsers := by
    intro users hmem user huser
    obtain ⟨first, -, rfl⟩ := Scene.mem_usersByType_iff.mp hmem
    exact (List.mem_filter.mp huser).1
  exact Traced.value?_foldlM_map
    (fun plan users husers => h.value?_planType (hmem users husers) plan) Table.empty

end Scene.Relabels

/-! ### The names of a scene -/

namespace Relabeling

variable (ρ : Relabeling) {graph : Graph} {a b : Catalog} {settings : Settings}
  (hcatalog : a.SameButTitles b)

include hcatalog

/-- The variables of a node are named alike under its new id. -/
lemma addNode_onNode (table : Variables) (node : Node) :
    Variables.addNode b settings (ρ.onTable table) (ρ.onNode node) =
      (Variables.addNode a settings table node).map ρ.onTable := by
  have hofNode : ∀ ports, Variables.ofNode (ρ.onNode node) ports = Variables.ofNode node ports := by
    intro ports
    unfold Variables.ofNode
    exact congrArg (fun name => Table.ofList (ports.map fun port => (port, name port)))
      (funext (ρ.outputVariable_label node.id))
  unfold Variables.addNode
  rcases hcatalog.find?_cases node.type with ⟨ha, hb⟩ | ⟨type, title, ha, hb⟩
  · have hb' : b.find? (ρ.onNode node).type = none := hb
    rw [ha, hb']
    rfl
  · have hb' : b.find? (ρ.onNode node).type = some (type.titled title) := hb
    have hports : (ρ.onNode node).outputNames (type.titled title) settings =
        node.outputNames type settings := rfl
    rw [ha, hb']
    dsimp only
    rw [hports]
    cases node.outputNames type settings with
    | error fault => rfl
    | ok ports =>
      show Except.ok ((ρ.onTable table).insert (ρ.label node.id) _) = Except.ok (ρ.onTable _)
      rw [hofNode, ρ.onTable_insert]

/-- Outputs are called the same under new ids. -/
theorem generate_onGraph :
    Variables.generate (ρ.onGraph graph) b settings =
      (Variables.generate graph a settings).map ρ.onTable := by
  have hfold : ∀ (nodes : List Node) (table : Variables),
      (nodes.map ρ.onNode).foldlM (Variables.addNode b settings) (ρ.onTable table) =
        (nodes.foldlM (Variables.addNode a settings) table).map ρ.onTable := by
    intro nodes
    induction nodes with
    | nil => exact fun table => rfl
    | cons node nodes ih =>
      intro table
      rw [List.map_cons, List.foldlM_cons, List.foldlM_cons, ρ.addNode_onNode hcatalog]
      cases Variables.addNode a settings table node with
      | error fault => rfl
      | ok next => exact ih next
  exact hfold graph.nodes Table.empty

omit hcatalog in
/-- A node has the same names to make uniforms for. -/
lemma namesOf_onNode (node : Node) (type : NodeType) (title : String) :
    Uniform.namesOf (ρ.onGraph graph) settings (ρ.onNode node) (type.titled title) =
      Uniform.namesOf graph settings node type := by
  have hwired : ∀ name, Uniform.isWired (ρ.onGraph graph) (ρ.onNode node).id name =
      Uniform.isWired graph node.id name := by
    intro name
    unfold Uniform.isWired
    rw [onGraph, List.any_map]
    refine congrArg graph.wires.any (funext fun wire => ?_)
    rw [Function.comp_apply, Bool.eq_iff_iff]
    simp [onNode, onWire, Wire.parameter?, ρ.injective.eq_iff]
  unfold Uniform.namesOf Uniform.hasUniform
  simp only [hwired]
  rfl

omit hcatalog in
/-- The uniforms of nodes stand in a second table under the new ids. -/
def SameUniforms (table table' : Table String) : Prop :=
  ∀ id name, '.' ∉ name.toList →
    table'.find? (Uniform.key (ρ.label id) name) = table.find? (Uniform.key id name)

omit hcatalog in
/-- A new uniform keeps two tables alike. -/
lemma SameUniforms.insert {ρ : Relabeling} {table table' : Table String}
    (h : ρ.SameUniforms table table') (id : String) {name : String} (hname : '.' ∉ name.toList) :
    ρ.SameUniforms (table.insert (Uniform.key id name) (Identifier.uniform id name))
      (table'.insert (Uniform.key (ρ.label id) name)
        (Identifier.uniform (ρ.label id) name)) := by
  intro other name' hname'
  have hkeys : Uniform.key (ρ.label id) name = Uniform.key (ρ.label other) name' ↔
      Uniform.key id name = Uniform.key other name' := by
    constructor
    · intro hkey
      obtain ⟨hid, rfl⟩ := Uniform.key_injective hname hname' hkey
      rw [ρ.injective hid]
    · intro hkey
      obtain ⟨rfl, rfl⟩ := Uniform.key_injective hname hname' hkey
      rfl
  rw [Table.find?_insert, Table.find?_insert, ρ.uniform_label, h other name' hname']
  simp only [hkeys]

omit hcatalog in
/-- The uniforms of a node keep two tables alike. -/
lemma SameUniforms.foldl_insert {ρ : Relabeling} {table table' : Table String}
    (h : ρ.SameUniforms table table') (id : String) {names : List String}
    (hnames : ∀ name ∈ names, '.' ∉ name.toList) :
    ρ.SameUniforms
      (names.foldl (fun table name =>
        table.insert (Uniform.key id name) (Identifier.uniform id name)) table)
      (names.foldl (fun table name =>
        table.insert (Uniform.key (ρ.label id) name) (Identifier.uniform (ρ.label id) name))
        table') := by
  induction names generalizing table table' with
  | nil => exact h
  | cons name names ih =>
    rw [List.foldl_cons, List.foldl_cons]
    exact ih (h.insert id (hnames name List.mem_cons_self)) fun other hother =>
      hnames other (List.mem_cons_of_mem name hother)

omit hcatalog in
/-- The table of uniforms with those of one node. -/
def addUniforms (graph : Graph) (catalog : Catalog) (settings : Settings) (table : Table String)
    (node : Node) : Except Fault (Table String) :=
  match catalog.find? node.type with
  | none => .ok table
  | some type => do
    let names ← Uniform.namesOf graph settings node type
    return names.foldl (fun table name =>
      table.insert (Uniform.key node.id name) (Identifier.uniform node.id name)) table

omit hcatalog in
lemma allocate_eq (graph : Graph) (catalog : Catalog) (settings : Settings) :
    Uniform.allocate graph catalog settings =
      graph.nodes.foldlM (addUniforms graph catalog settings) Table.empty :=
  rfl

/-- A node gets the same uniforms under its new id. -/
lemma exists_addUniforms_onNode (hdots : a.DotFree) {node : Node} {table table' next : Table String}
    (htables : ρ.SameUniforms table table')
    (h : addUniforms graph a settings table node = .ok next) :
    ∃ next', addUniforms (ρ.onGraph graph) b settings table' (ρ.onNode node) = .ok next' ∧
      ρ.SameUniforms next next' := by
  unfold addUniforms at h ⊢
  rcases hcatalog.find?_cases node.type with ⟨ha, hb⟩ | ⟨type, title, ha, hb⟩
  · have hb' : b.find? (ρ.onNode node).type = none := hb
    rw [ha] at h
    cases h
    rw [hb']
    exact ⟨table', rfl, htables⟩
  · have hb' : b.find? (ρ.onNode node).type = some (type.titled title) := hb
    rw [ha] at h
    obtain ⟨names, hnames, h⟩ := bind_eq_ok_iff.mp h
    cases h
    rw [hb']
    dsimp only
    rw [ρ.namesOf_onNode, hnames]
    refine ⟨_, rfl, htables.foldl_insert node.id fun name hname => ?_⟩
    exact Uniform.dot_not_mem_of_mem_namesOf hdots ha hnames hname

/-- Uniforms are allocated alike under new ids, when keys tell the nodes. -/
theorem exists_allocate_onGraph (hdots : a.DotFree) {table : Table String}
    (h : Uniform.allocate graph a settings = .ok table) :
    ∃ table', Uniform.allocate (ρ.onGraph graph) b settings = .ok table' ∧
      ρ.SameUniforms table table' := by
  have hfold : ∀ (nodes : List Node) (start start' : Table String),
      ρ.SameUniforms start start' →
      nodes.foldlM (addUniforms graph a settings) start = .ok table →
      ∃ table', (nodes.map ρ.onNode).foldlM (addUniforms (ρ.onGraph graph) b settings) start' =
        .ok table' ∧ ρ.SameUniforms table table' := by
    intro nodes
    induction nodes with
    | nil =>
      intro start start' hstart h
      cases h
      exact ⟨start', rfl, hstart⟩
    | cons node nodes ih =>
      intro start start' hstart h
      rw [List.foldlM_cons] at h
      obtain ⟨next, hnext, h⟩ := bind_eq_ok_iff.mp h
      obtain ⟨next', hnext', hsame⟩ := ρ.exists_addUniforms_onNode hcatalog hdots hstart hnext
      obtain ⟨table', htable', hsame⟩ := ih next next' hsame h
      refine ⟨table', ?_, hsame⟩
      rw [List.map_cons, List.foldlM_cons, hnext']
      exact htable'
  rw [allocate_eq] at h ⊢
  exact hfold graph.nodes Table.empty Table.empty (fun _ _ _ => rfl) h

end Relabeling

/-! ### Requests -/

namespace Request

/-- The scene of a request with the names of its helpers. -/
def specialized (request : Request) : Except Fault Scene := do
  let scene ← request.scene
  let renames ← (request.plan scene).outcome
  return scene.withRenames renames

/-- The blocks of a request. -/
def blocks (request : Request) : Except Fault (List Block) := do
  (← request.specialized).blocks.outcome

/-- The requests differ in the ids of nodes and in the titles of node types only.  The uniforms are
allocated for both, under keys that tell the nodes, or are named alike by the caller. -/
structure Relabels (ρ : Relabeling) (a b : Request) : Prop where
  graph : b.graph = ρ.onGraph a.graph
  catalog : a.catalog.SameButTitles b.catalog
  settings : b.settings = a.settings
  order : b.order = a.order.map ρ.label
  uniforms : (a.uniforms = none ∧ b.uniforms = none ∧ a.catalog.DotFree) ∨
    ∃ table table', a.uniforms = some table ∧ b.uniforms = some table' ∧
      ∀ id name, table'.find? (Uniform.key (ρ.label id) name) = table.find? (Uniform.key id name)
  renames : b.renames = a.renames.map ρ.onTable

namespace Relabels

variable {ρ : Relabeling} {a b : Request} (h : a.Relabels ρ b)

include h

/-- The uniforms of both requests answer alike about places that nodes can have. -/
lemma exists_uniforms {uniforms : Table String} (hscene : a.uniforms = some uniforms ∨
    a.uniforms = none ∧ Uniform.allocate a.graph a.catalog a.settings = .ok uniforms) :
    ∃ uniforms', b.scene = b.sceneWith uniforms' ∧
      ∀ {typeId type}, a.catalog.find? typeId = some type → ∀ {name}, type.Places name →
        ∀ id, uniforms'.find? (Uniform.key (ρ.label id) name) =
          uniforms.find? (Uniform.key id name) := by
  -- without dots in names, a key tells the node, so allocated tables correspond as given ones do
  rcases h.uniforms with ⟨ha, hb, hdots⟩ | ⟨table, table', ha, hb, htables⟩
  · rw [ha] at hscene
    obtain hscene | ⟨-, hallocate⟩ := hscene
    · cases hscene
    obtain ⟨uniforms', hallocate', hsame⟩ := ρ.exists_allocate_onGraph h.catalog hdots hallocate
    refine ⟨uniforms', ?_, fun {typeId type} htype {name} hname id => hsame id name ?_⟩
    · rw [scene_of_allocated hb, h.graph, h.settings, hallocate', ok_bind]
    · obtain ⟨hports, hparameters⟩ := hdots typeId type htype
      rcases hname with hname | hname | ⟨count, hname⟩
      · obtain ⟨port, hport, rfl⟩ := List.mem_map.mp hname
        exact hports port hport
      · exact hparameters name hname
      · exact dot_not_mem_of_mem_analyzerPorts hname
  · rw [ha] at hscene
    obtain hscene | ⟨hscene, -⟩ := hscene
    · cases hscene
      exact ⟨table', scene_of_named hb, fun _ _ _ id => htables id _⟩
    · cases hscene

/-- The scene of the relabeled request is the relabeled scene. -/
lemma exists_scene {scene : Scene} (hscene : a.scene = .ok scene) :
    ∃ scene', b.scene = .ok scene' ∧ scene.Relabels ρ scene' := by
  have his := isScene_of_scene hscene
  obtain ⟨uniforms', hb, huniforms⟩ := h.exists_uniforms his.uniforms
  have hgenerate : Variables.generate b.graph b.catalog b.settings =
      .ok (ρ.onTable scene.variableNames) := by
    rw [h.graph, h.settings, ρ.generate_onGraph h.catalog, his.named]
    rfl
  unfold sceneWith at hb
  rw [hgenerate, ok_bind] at hb
  refine ⟨_, hb, ?_⟩
  constructor
  · show b.graph = ρ.onGraph scene.graph
    rw [h.graph, his.graph]
  · rw [his.catalog]
    exact h.catalog
  · intro id
    show Variables.ports (ρ.onTable scene.variableNames) (ρ.label id) = _
    unfold Variables.ports
    rw [ρ.find?_onTable]
  · show b.order = scene.order.map ρ.label
    rw [h.order, his.order]
  · intro typeId type htype name hname id
    rw [his.catalog] at htype
    exact congrArg Uniform.nonempty? (huniforms htype hname id)
  · show b.settings = scene.settings
    rw [h.settings, his.settings]

/-- The relabeled scene has the same plan under new ids. -/
lemma exists_plan {scene scene' : Scene} (hscenes : scene.Relabels ρ scene')
    {renames : Table (Table String)} (hplan : (a.plan scene).outcome = .ok renames) :
    (b.plan scene').outcome = .ok (ρ.onTable renames) := by
  unfold plan at hplan ⊢
  rw [h.renames]
  cases hrenames : a.renames with
  | some given =>
    rw [hrenames] at hplan
    cases hplan
    rfl
  | none =>
    rw [hrenames] at hplan
    rw [Traced.outcome_inStage] at hplan
    show scene'.plan.outcome = _
    rw [← Traced.value?_eq_some_iff, hscenes.value?_plan, Traced.value?_eq_some_iff.mpr hplan,
      Option.map_some]

/-- A request under other ids and titles has the same blocks, but for what their comments say. -/
theorem exists_blocks {found : List Block} (hblocks : a.blocks = .ok found) :
    ∃ found', b.blocks = .ok found' ∧
      List.Forall₂ (fun block other => other.node = ρ.label block.node ∧ other.code = block.code)
        found found' := by
  unfold blocks specialized at hblocks
  obtain ⟨special, hspecial, hfound⟩ := bind_eq_ok_iff.mp hblocks
  obtain ⟨scene, hscene, hspecial⟩ := bind_eq_ok_iff.mp hspecial
  obtain ⟨renames, hplan, hspecial⟩ := bind_eq_ok_iff.mp hspecial
  cases hspecial
  obtain ⟨scene', hscene', hscenes⟩ := h.exists_scene hscene
  have hplan' := h.exists_plan hscenes hplan
  have hnamed : (scene.withRenames renames).Relabels ρ (scene'.withRenames (ρ.onTable renames)) :=
    ⟨hscenes.graph, hscenes.catalog, hscenes.ports, hscenes.order, hscenes.uniform?,
      hscenes.settings⟩
  have hrenames : ∀ id, (scene'.withRenames (ρ.onTable renames)).renamesOf (ρ.label id) =
      (scene.withRenames renames).renamesOf id := by
    intro id
    show (((ρ.onTable renames).find? (ρ.label id)).map Table.entries).getD [] = _
    rw [ρ.find?_onTable]
    rfl
  have hvalue := hnamed.value?_blocks hrenames
  rw [Traced.value?_eq_some_iff.mpr hfound, Option.map_some, Traced.value?_eq_some_iff] at hvalue
  refine ⟨found.map (ρ.blockIn (scene'.withRenames (ρ.onTable renames))), ?_, ?_⟩
  · unfold blocks specialized
    rw [hscene', ok_bind, hplan']
    exact hvalue
  · rw [List.forall₂_map_right_iff, List.forall₂_same]
    exact fun block _ => ⟨rfl, rfl⟩

end Relabels

end Request

end ShaderLoom
