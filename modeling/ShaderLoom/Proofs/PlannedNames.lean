import ShaderLoom.Compilation
import ShaderLoom.Proofs.HelperPlan

/-!
# Which names are planned

The plan is made by collecting nodes into groups, first by their types and then by their helper
code.  What comes of it can be said of each node alone: a node gets new names for its helpers
exactly when its helper code is not that of the first node of its type, and the names are made
from the id of the first node of its type with the same helper code.  Nodes come in the order in
which their code is written; ids of the order that belong to no node are passed over.

What is remarked while the plan is made does not reach the author.
-/

namespace ShaderLoom

namespace Scene

/-- The nodes in the order in which their code is written. -/
def writtenNodes (scene : Scene) : List Node := scene.emissionOrder.filterMap scene.node?

/-- The template of the helpers of a node. -/
def templateOf? (scene : Scene) (node : Node) : Option String :=
  (scene.catalog.find? node.type).bind NodeType.helperTemplate?

/-- The helper code of a node, if it has helpers and their code can be made. -/
def helperCode? (scene : Scene) (node : Node) : Option String :=
  (scene.helperText? node.id).bind fun text => text.outcome.toOption

/-- The first node of the same type. -/
def firstOfType? (scene : Scene) (node : Node) : Option Node :=
  scene.writtenNodes.find? fun other => other.type == node.type

/-- The first node of the same type with the same helper code. -/
def leaderOf? (scene : Scene) (node : Node) : Option Node :=
  scene.writtenNodes.find? fun other =>
    other.type == node.type && scene.helperCode? other == scene.helperCode? node

/-- Every node of the graph that needs new names for its helpers has them, and nothing else. -/
structure IsPlan (scene : Scene) (plan : Table (Table String)) : Prop where
  known : ∀ id, (plan.find? id).isSome → ∃ node ∈ scene.graph.nodes, node.id = id
  entry_iff : ∀ node ∈ scene.graph.nodes, (plan.find? node.id).isSome ↔
    (scene.templateOf? node).isSome ∧ ∃ first, scene.firstOfType? node = some first ∧
      scene.helperCode? node ≠ scene.helperCode? first
  names : ∀ node ∈ scene.graph.nodes, ∀ names, plan.find? node.id = some names →
    ∃ template leader, scene.templateOf? node = some template ∧
      scene.leaderOf? node = some leader ∧
      names.entries = (Helper.names template.toList).map fun name =>
        (name, name ++ "_" ++ Identifier.clean leader.id)

/-! ### Nodes and users of helpers -/

section Users

variable {scene : Scene} {user : HelperUser}

/-- A node uses helpers when its type has a template for them. -/
lemma helperUser?_eq_some_iff {id : String} :
    scene.helperUser? id = some user ↔
      Scope.of? scene id = some user.scope ∧
        user.scope.type.helperTemplate? = some user.template := by
  unfold helperUser?
  rw [Option.bind_eq_some_iff]
  constructor
  · rintro ⟨scope, hof, h⟩
    obtain ⟨template, htemplate, rfl⟩ := Option.map_eq_some_iff.mp h
    exact ⟨hof, htemplate⟩
  · rintro ⟨hof, htemplate⟩
    exact ⟨user.scope, hof, by rw [htemplate, Option.map_some]⟩

/-- The users of a scene are found by their ids. -/
lemma helperUser?_of_mem (h : user ∈ scene.helperUsers) :
    scene.helperUser? user.scope.node.id = some user := by
  obtain ⟨-, hof, htemplate⟩ := mem_helperUsers_iff.mp h
  exact helperUser?_eq_some_iff.mpr ⟨hof, htemplate⟩

/-- A node with a template of helpers is a user of them. -/
lemma exists_helperUser? {id template : String} {node : Node} (hnode : scene.node? id = some node)
    (htemplate : scene.templateOf? node = some template) :
    ∃ user, scene.helperUser? id = some user ∧ user.scope.node = node ∧
      user.template = template := by
  obtain ⟨type, htype, htemplate⟩ := Option.bind_eq_some_iff.mp htemplate
  exact ⟨⟨{ scene, node, type }, template⟩, helperUser?_eq_some_iff.mpr
    ⟨Scope.of?_eq_some_iff.mpr ⟨node, type, hnode, htype, rfl⟩, htemplate⟩, rfl, rfl⟩

section Found

variable {id : String} (h : scene.helperUser? id = some user)

include h

lemma node?_of_helperUser? : scene.node? id = some user.scope.node := by
  obtain ⟨hof, -⟩ := helperUser?_eq_some_iff.mp h
  obtain ⟨node, type, hnode, -, hscope⟩ := Scope.of?_eq_some_iff.mp hof
  rw [hscope]
  exact hnode

/-- The template of a user is that of its type. -/
lemma templateOf?_of_helperUser? : scene.templateOf? user.scope.node = some user.template := by
  obtain ⟨hof, htemplate⟩ := helperUser?_eq_some_iff.mp h
  obtain ⟨node, type, -, htype, hscope⟩ := Scope.of?_eq_some_iff.mp hof
  rw [hscope] at htemplate ⊢
  unfold templateOf?
  rw [htype, Option.bind_some]
  exact htemplate

/-- The code of helpers is their rendered template, where it can be rendered. -/
lemma helperCode?_of_helperUser? :
    scene.helperCode? user.scope.node = (user.scope.render user.template).outcome.toOption := by
  have hid : user.scope.node.id = id := Graph.id_of_node? (node?_of_helperUser? h)
  unfold helperCode? helperText?
  rw [hid, h]
  rfl

end Found

/-- The nodes of one type share the template. -/
lemma templateOf?_of_type {node other : Node} (h : node.type = other.type) :
    scene.templateOf? node = scene.templateOf? other := by
  unfold templateOf?
  rw [h]

/-- What is looked for among the nodes is found among the users of helpers, when no other nodes
are meant. -/
lemma find?_writtenNodes {p : Node → Bool} {q : HelperUser → Bool}
    (hsome : ∀ id user, scene.helperUser? id = some user → p user.scope.node = q user)
    (hnone : ∀ node, p node = true → (scene.templateOf? node).isSome) :
    scene.writtenNodes.find? p = (scene.helperUsers.find? q).map fun user => user.scope.node := by
  have hany : (fun id => (scene.node? id).any p) = fun id => (scene.helperUser? id).any q := by
    funext id
    cases huser : scene.helperUser? id with
    | some user =>
      rw [node?_of_helperUser? huser]
      exact hsome id user huser
    | none =>
      cases hnode : scene.node? id with
      | none => rfl
      | some node =>
        by_contra hp
        have htemplate := hnone node (by simpa using hp)
        obtain ⟨template, htemplate⟩ := Option.isSome_iff_exists.mp htemplate
        obtain ⟨user, huser', -⟩ := exists_helperUser? hnode htemplate
        rw [huser] at huser'
        cases huser'
  unfold writtenNodes
  rw [helperUsers_eq_filterMap, List.find?_filterMap, List.find?_filterMap, hany]
  cases hfind : scene.emissionOrder.find? fun id => (scene.helperUser? id).any q with
  | none => rfl
  | some id =>
    have hfound := List.find?_some hfind
    rw [Option.any_eq_true_iff_get] at hfound
    obtain ⟨hisSome, -⟩ := hfound
    obtain ⟨user, huser⟩ := Option.isSome_iff_exists.mp hisSome
    rw [Option.bind_some, Option.bind_some, huser, node?_of_helperUser? huser]
    rfl

end Users

/-! ### Entries -/

section Entries

variable {scene : Scene} (hids : (scene.graph.nodes.map Node.id).Nodup)
  (hrenders : ∀ node ∈ scene.graph.nodes, (scene.templateOf? node).isSome →
    (scene.helperCode? node).isSome)

include hrenders

/-- The helpers of every user are rendered. -/
lemma renders_of_helperUser? {id : String} {user : HelperUser}
    (h : scene.helperUser? id = some user) : user.Renders := by
  have hnode := Graph.mem_of_node? (node?_of_helperUser? h)
  have hcode := hrenders _ hnode (by rw [templateOf?_of_helperUser? h]; rfl)
  rw [helperCode?_of_helperUser? h] at hcode
  exact HelperUser.renders_of_outcome (eq_ok_of_isSome_toOption "" hcode)

/-- The code of the helpers of a user is what its template renders. -/
lemma helperCode?_eq_code {id : String} {user : HelperUser}
    (h : scene.helperUser? id = some user) :
    scene.helperCode? user.scope.node = some user.code := by
  rw [helperCode?_of_helperUser? h, renders_of_helperUser? hrenders h]
  rfl

lemma exists_plan : ∃ plan, scene.plan.outcome = .ok plan :=
  ⟨_, outcome_plan fun _ huser => renders_of_helperUser? hrenders (helperUser?_of_mem huser)⟩

omit hrenders in
/-- The first node of a type, as a user of helpers. -/
lemma firstOfType?_eq {id : String} {user : HelperUser} (h : scene.helperUser? id = some user) :
    scene.firstOfType? user.scope.node =
      (scene.helperUsers.find? user.sameType).map fun first => first.scope.node := by
  refine find?_writtenNodes (fun _ _ _ => rfl) fun node htype => ?_
  rw [templateOf?_of_type (beq_iff_eq.mp htype), templateOf?_of_helperUser? h]
  rfl

/-- The leader of a node, as a user of helpers. -/
lemma leaderOf?_eq {id : String} {user : HelperUser} (h : scene.helperUser? id = some user) :
    scene.leaderOf? user.scope.node = (scene.helperUsers.find? fun other =>
      user.sameType other && other.code == user.code).map fun leader => leader.scope.node := by
  refine find?_writtenNodes (fun id' other hother => ?_) fun node hnode => ?_
  · rw [helperCode?_eq_code hrenders hother, helperCode?_eq_code hrenders h]
    rfl
  · rw [Bool.and_eq_true, beq_iff_eq] at hnode
    rw [templateOf?_of_type hnode.1, templateOf?_of_helperUser? h]
    rfl

include hids

/-- What the plan says about a node whose type has helpers. -/
lemma find?_plan_of_template {plan : Table (Table String)} (hplan : scene.plan.outcome = .ok plan)
    {node : Node} (hnode : node ∈ scene.graph.nodes) {template : String}
    (htemplate : scene.templateOf? node = some template) :
    ∃ first leader, scene.firstOfType? node = some first ∧ scene.leaderOf? node = some leader ∧
      plan.find? node.id =
        if scene.helperCode? node = scene.helperCode? first then none
        else some (suffixed (Helper.names template.toList) leader.id) := by
  obtain ⟨user, huser, rfl, rfl⟩ :=
    exists_helperUser? (Graph.node?_of_mem hids hnode) htemplate
  obtain ⟨hof, htemplate'⟩ := helperUser?_eq_some_iff.mp huser
  have hmem : user ∈ scene.helperUsers :=
    mem_helperUsers_iff.mpr ⟨mem_emissionOrder hnode, hof, htemplate'⟩
  obtain ⟨first, leader, hplanned, hfind⟩ := find?_plan hplan hmem
  have hfirst := List.mem_of_find?_eq_some hplanned.first_eq
  refine ⟨first.scope.node, leader.scope.node, ?_, ?_, ?_⟩
  · rw [firstOfType?_eq huser, hplanned.first_eq]
    rfl
  · rw [leaderOf?_eq hrenders huser, hplanned.leader_eq]
    rfl
  · rw [hfind, helperCode?_eq_code hrenders huser,
      helperCode?_eq_code hrenders (helperUser?_of_mem hfirst)]
    simp only [Option.some.injEq]

omit hrenders in
/-- A node with an entry has helpers. -/
lemma exists_template_of_plan {plan : Table (Table String)} (hplan : scene.plan.outcome = .ok plan)
    {node : Node} (hnode : node ∈ scene.graph.nodes) (h : (plan.find? node.id).isSome) :
    ∃ template, scene.templateOf? node = some template := by
  obtain ⟨user, huser, hid⟩ := exists_helperUser_of_plan hplan h
  have heq : user.scope.node = node :=
    List.inj_on_of_nodup_map hids (node_mem_of_helperUser huser) hnode hid
  exact ⟨user.template, heq ▸ templateOf?_of_helperUser? (helperUser?_of_mem huser)⟩

/-- The plan that is made gives the names that it should. -/
lemma isPlan_of_outcome {plan : Table (Table String)} (hplan : scene.plan.outcome = .ok plan) :
    scene.IsPlan plan where
  known := by
    intro id hid
    obtain ⟨user, huser, rfl⟩ := exists_helperUser_of_plan hplan hid
    exact ⟨user.scope.node, node_mem_of_helperUser huser, rfl⟩
  entry_iff := by
    intro node hnode
    constructor
    · intro hentry
      obtain ⟨template, htemplate⟩ := exists_template_of_plan hids hplan hnode hentry
      obtain ⟨first, leader, hfirst, -, hfind⟩ :=
        find?_plan_of_template hids hrenders hplan hnode htemplate
      refine ⟨by rw [htemplate]; rfl, first, hfirst, fun hsame => ?_⟩
      rw [hfind, if_pos hsame] at hentry
      cases hentry
    · rintro ⟨htemplate, first, hfirst, hne⟩
      obtain ⟨template, htemplate⟩ := Option.isSome_iff_exists.mp htemplate
      obtain ⟨first', leader, hfirst', -, hfind⟩ :=
        find?_plan_of_template hids hrenders hplan hnode htemplate
      rw [hfirst] at hfirst'
      cases hfirst'
      rw [hfind, if_neg hne]
      rfl
  names := by
    intro node hnode names hnames
    obtain ⟨template, htemplate⟩ := exists_template_of_plan hids hplan hnode (by rw [hnames]; rfl)
    obtain ⟨first, leader, -, hleader, hfind⟩ :=
      find?_plan_of_template hids hrenders hplan hnode htemplate
    refine ⟨template, leader, htemplate, hleader, ?_⟩
    rw [hnames] at hfind
    split at hfind
    · cases hfind
    · cases hfind
      exact entries_suffixed template.toList leader.id

end Entries

end Scene

/-! ### Remarks -/

/-- Remarks on the planning leave the diagnostics of the author as they are. -/
lemma Notes.diagnostics_foldl_of_planning {remarks : List Remark}
    (h : ∀ remark ∈ remarks, remark.stage = .planning) (notes : Notes) :
    (remarks.foldl Notes.add notes).diagnostics = notes.diagnostics := by
  induction remarks generalizing notes with
  | nil => rfl
  | cons remark rest ih =>
    have hstep : (notes.add remark).diagnostics = notes.diagnostics := by
      unfold Notes.add
      rw [h remark List.mem_cons_self]
    rw [List.foldl_cons, ih fun other hother => h other (List.mem_cons_of_mem remark hother), hstep]

/-- Remarks belong to the stage that they are made in. -/
lemma Traced.stage_of_mem_inStage {α : Type} {traced : Traced α} {stage : Stage} {remark : Remark}
    (h : remark ∈ (traced.inStage stage).remarks) : remark.stage = stage := by
  obtain ⟨original, -, rfl⟩ := List.mem_map.mp h
  rfl

/-- When all helper code can be made, there is a plan, it gives the nodes of the graph the names
that they need, and making it leaves the diagnostics of the author as they are. -/
theorem Request.exists_isPlan {request : Request} (hplans : request.renames = none) {scene : Scene}
    (hids : (scene.graph.nodes.map Node.id).Nodup)
    (hrenders : ∀ node ∈ scene.graph.nodes, (scene.templateOf? node).isSome →
      (scene.helperCode? node).isSome) :
    ∃ plan, (request.plan scene).outcome = .ok plan ∧ scene.IsPlan plan ∧
      ∀ notes : Notes, ((request.plan scene).remarks.foldl Notes.add notes).diagnostics =
        notes.diagnostics := by
  have hplan : request.plan scene = scene.plan.inStage .planning := by
    unfold Request.plan
    rw [hplans]
  obtain ⟨plan, houtcome⟩ := Scene.exists_plan hrenders
  rw [hplan]
  refine ⟨plan, houtcome, Scene.isPlan_of_outcome hids hrenders houtcome, ?_⟩
  exact Notes.diagnostics_foldl_of_planning fun _ => Traced.stage_of_mem_inStage

/-- Four nodes of one type with two kinds of helper code.  The order omits one of them, repeats
another, and names a node that does not exist. -/
def Scene.fourTints : Scene where
  graph :=
    { nodes :=
        [⟨"a", "tint", Table.ofList [("strength", .int 2)], Table.empty⟩,
         ⟨"b", "tint", Table.ofList [("strength", .int 3)], Table.empty⟩,
         ⟨"c", "tint", Table.ofList [("strength", .int 2)], Table.empty⟩,
         ⟨"d", "tint", Table.ofList [("strength", .int 3)], Table.empty⟩]
      wires := [] }
  catalog := ⟨Table.ofList [("tint",
    { id := "tint", displayName := "Tint", category := "Color", inputs := [], outputs := []
      parameters := Table.ofList
        [("strength", ⟨.float, .int 1, .null, .null, .null, none, none⟩)]
      mainCode := "scale(1.0);"
      functions := some "float scale(float x) \x7b return x * $param.strength; \x7d"
      description := "" })]⟩
  variableNames := Table.empty
  order := ["c", "e", "d", "c", "a"]
  uniforms := Table.empty
  renames := Table.empty
  settings := {}

/-- The request that leads to this scene. -/
def Request.fourTints : Request where
  graph := Scene.fourTints.graph
  catalog := Scene.fourTints.catalog
  settings := Scene.fourTints.settings
  order := Scene.fourTints.order
  uniforms := some Table.empty
  renames := none

/-- Two of the nodes are renamed after the one of them that comes first in the order. -/
theorem Request.exists_isPlan_fourTints :
    ∃ plan, (fourTints.plan Scene.fourTints).outcome = .ok plan ∧ Scene.fourTints.IsPlan plan ∧
      (∀ notes : Notes, ((fourTints.plan Scene.fourTints).remarks.foldl Notes.add
        notes).diagnostics = notes.diagnostics) ∧
      (["a", "b", "c", "d"].map fun id => (plan.find? id).map Table.entries) =
        [none, some [("scale", "scale_d")], none, some [("scale", "scale_d")]] := by
  obtain ⟨plan, hplan, hisPlan, hnotes⟩ :=
    @exists_isPlan fourTints rfl Scene.fourTints (by decide) (by decide +kernel)
  refine ⟨plan, hplan, hisPlan, hnotes, ?_⟩
  have hentries : (fourTints.plan Scene.fourTints).outcome.toOption.map (fun plan =>
      ["a", "b", "c", "d"].map fun id => (plan.find? id).map Table.entries) =
        some [none, some [("scale", "scale_d")], none, some [("scale", "scale_d")]] := by
    decide +kernel
  rw [hplan] at hentries
  exact Option.some.inj hentries

end ShaderLoom
