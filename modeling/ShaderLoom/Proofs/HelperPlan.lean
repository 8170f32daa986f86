import ShaderLoom.Proofs.Outcomes
import ShaderLoom.Proofs.SceneNodes
import ShaderLoom.Proofs.Tables

/-!
# The plan of specialized helpers

What the plan says about one node.  The nodes with helpers are looked at in the order in which
their code is written.  A node whose helper code is that of the first node of its type has no
entry; any other node has one, in which the helpers are named after the first node of its type with
the same helper code.  In particular the entry depends on the type and the helper code only.
-/

namespace ShaderLoom

/-! ### Nodes with helpers -/

/-- The node with the given id as a user of helpers, if its type has some. -/
def Scene.helperUser? (scene : Scene) (id : String) : Option HelperUser :=
  (Scope.of? scene id).bind fun scope =>
    scope.type.helperTemplate?.map fun template => ⟨scope, template⟩

/-- The helper code of a node before its helpers are renamed; `none` if there are no helpers. -/
def Scene.helperText? (scene : Scene) (id : String) : Option (Traced String) :=
  (scene.helperUser? id).map fun user => user.scope.render user.template

/-- The users of helpers are found in the order of emission. -/
lemma Scene.helperUsers_eq_filterMap (scene : Scene) :
    scene.helperUsers = scene.emissionOrder.filterMap scene.helperUser? := by
  unfold Scene.helperUsers
  rw [List.filterMap_filterMap]
  rfl

/-- A node uses helpers when it is emitted and its type has a template for them. -/
lemma Scene.mem_helperUsers_iff {scene : Scene} {user : HelperUser} :
    user ∈ scene.helperUsers ↔ user.scope.node.id ∈ scene.emissionOrder ∧
      Scope.of? scene user.scope.node.id = some user.scope ∧
      user.scope.type.helperTemplate? = some user.template := by
  unfold Scene.helperUsers
  constructor
  · intro h
    obtain ⟨scope, hscope, h⟩ := List.mem_filterMap.mp h
    obtain ⟨id, hid, hof⟩ := List.mem_filterMap.mp hscope
    obtain ⟨template, htemplate, rfl⟩ := Option.map_eq_some_iff.mp h
    have heq := Scope.id_of_of? hof
    subst heq
    exact ⟨hid, hof, htemplate⟩
  · rintro ⟨hid, hof, htemplate⟩
    refine List.mem_filterMap.mpr ⟨user.scope, List.mem_filterMap.mpr ⟨_, hid, hof⟩, ?_⟩
    rw [htemplate]
    rfl

/-- The node of the graph as a node with helpers. -/
lemma Scene.mem_helperUsers_of_node {scene : Scene} (hids : (scene.graph.nodes.map Node.id).Nodup)
    {node : Node} (hnode : node ∈ scene.graph.nodes) {type : NodeType} {template : String}
    (htype : scene.catalog.find? node.type = some type)
    (htemplate : type.helperTemplate? = some template) :
    (⟨{ scene, node, type }, template⟩ : HelperUser) ∈ scene.helperUsers :=
  Scene.mem_helperUsers_iff.mpr ⟨Scene.mem_emissionOrder hnode,
    Scope.of?_eq_some_iff.mpr ⟨node, type, Graph.node?_of_mem hids hnode, htype, rfl⟩, htemplate⟩

/-- The users of helpers are nodes of the graph. -/
lemma Scene.node_mem_of_helperUser {scene : Scene} {user : HelperUser}
    (h : user ∈ scene.helperUsers) : user.scope.node ∈ scene.graph.nodes := by
  obtain ⟨-, hof, -⟩ := Scene.mem_helperUsers_iff.mp h
  obtain ⟨node, type, hnode, -, hscope⟩ := Scope.of?_eq_some_iff.mp hof
  rw [hscope]
  exact Graph.mem_of_node? hnode

/-- There is one user for an id. -/
lemma Scene.helperUser_eq_of_id {scene : Scene} {user other : HelperUser}
    (huser : user ∈ scene.helperUsers) (hother : other ∈ scene.helperUsers)
    (h : user.scope.node.id = other.scope.node.id) : user = other := by
  obtain ⟨-, hof, htemplate⟩ := Scene.mem_helperUsers_iff.mp huser
  obtain ⟨-, hof', htemplate'⟩ := Scene.mem_helperUsers_iff.mp hother
  rw [h, hof'] at hof
  cases user
  cases other
  cases hof
  rw [htemplate] at htemplate'
  cases htemplate'
  rfl

/-- The users of one type share the template. -/
lemma Scene.template_eq_of_type {scene : Scene} {user other : HelperUser}
    (huser : user ∈ scene.helperUsers) (hother : other ∈ scene.helperUsers)
    (h : user.scope.node.type = other.scope.node.type) : user.template = other.template := by
  obtain ⟨-, hof, htemplate⟩ := Scene.mem_helperUsers_iff.mp huser
  obtain ⟨-, hof', htemplate'⟩ := Scene.mem_helperUsers_iff.mp hother
  obtain ⟨node, type, -, htype, hscope⟩ := Scope.of?_eq_some_iff.mp hof
  obtain ⟨node', type', -, htype', hscope'⟩ := Scope.of?_eq_some_iff.mp hof'
  rw [hscope, hscope'] at h
  rw [hscope] at htemplate
  rw [hscope'] at htemplate'
  have hnode : node.type = node'.type := h
  rw [hnode, htype'] at htype
  cases htype
  rw [htemplate] at htemplate'
  exact Option.some.inj htemplate'

/-- The helper code of a node, once it is known that it can be made. -/
def HelperUser.code (user : HelperUser) : String :=
  match (user.scope.render user.template).outcome with
  | .ok code => code
  | .error _ => ""

/-- The helper code of the node can be made. -/
def HelperUser.Renders (user : HelperUser) : Prop :=
  (user.scope.render user.template).outcome = .ok user.code

/-- Helpers are rendered when their template succeeds. -/
lemma HelperUser.renders_of_outcome {user : HelperUser} {code : String}
    (h : (user.scope.render user.template).outcome = .ok code) : user.Renders := by
  unfold HelperUser.Renders HelperUser.code
  rw [h]

/-- The variant of a node is its rendered code. -/
lemma HelperUser.outcome_variant {user : HelperUser} (h : user.Renders) :
    user.variant.outcome = .ok (user.scope.node.id, user.code) := by
  unfold HelperUser.variant
  rw [Traced.outcome_bind, h]
  rfl

/-- A node that has a variant has its helpers rendered. -/
lemma HelperUser.renders_of_variant {user : HelperUser} {variant : String × String}
    (h : user.variant.outcome = .ok variant) : user.Renders := by
  unfold HelperUser.variant at h
  rw [Traced.outcome_bind] at h
  obtain ⟨code, hcode, -⟩ := bind_eq_ok_iff.mp h
  exact HelperUser.renders_of_outcome hcode

/-! ### The entries of one type -/

/-- The new names of the helpers of a template, one after the other. -/
lemma entries_suffixed (template : List Char) (node : String) :
    (suffixed (Helper.names template) node).entries =
      (Helper.names template).map fun name => (name, name ++ "_" ++ Identifier.clean node) := by
  refine Table.entries_ofList ?_
  rw [List.map_map]
  exact (List.map_id _).symm ▸ nodup_eraseDups _

/-- The entries of a group of nodes with equal helper code: the names follow the first node. -/
def groupEntries (names : List String) (ids : List String) : List (String × Table String) :=
  match ids with
  | [] => []
  | first :: _ => ids.map fun id => (id, suffixed names first)

/-- The entries of the nodes of one type: those of all groups but the first. -/
def typeEntries (users : List HelperUser) : List (String × Table String) :=
  match users with
  | [] => []
  | first :: _ => ((users.map HelperUser.code).eraseDups.tail).flatMap fun code =>
      groupEntries (Helper.names first.template.toList)
        ((users.filter fun user => user.code == code).map fun user => user.scope.node.id)

/-- The plan with the given entries put in. -/
abbrev planWith (plan : Table (Table String)) (entries : List (String × Table String)) :
    Table (Table String) :=
  Table.insertAll Prod.fst Prod.snd plan entries

/-- Entries that come in groups are planned group by group. -/
lemma planWith_flatMap {α : Type} (plan : Table (Table String)) (items : List α)
    (entriesOf : α → List (String × Table String)) :
    planWith plan (items.flatMap entriesOf) =
      items.foldl (fun plan item => planWith plan (entriesOf item)) plan := by
  induction items generalizing plan with
  | nil => rfl
  | cons item items ih =>
    rw [List.flatMap_cons, List.foldl_cons, ← ih]
    exact List.foldl_append

/-- Planning a group adds its entries. -/
lemma planGroup_eq (names : List String) (plan : Table (Table String)) (ids : List String) :
    planGroup names plan ids = planWith plan (groupEntries names ids) := by
  cases ids with
  | nil => rfl
  | cons first ids =>
    simp only [planGroup, groupEntries, planWith, Table.insertAll, List.foldl_map]

/-- The groups that the plan of one type is made from. -/
lemma groups_variants (users : List HelperUser) :
    (groupOn Prod.snd (users.map fun user => (user.scope.node.id, user.code))).map
        (fun group => group.2.map Prod.fst) =
      (users.map HelperUser.code).eraseDups.map fun code =>
        (users.filter fun user => user.code == code).map fun user => user.scope.node.id := by
  rw [groupOn_eq, List.map_map, List.map_map]
  refine List.map_congr_left fun code _ => ?_
  simp only [Function.comp, groupAt, List.filter_map, List.map_map]
  rfl

/-- When their helper code can be made, the nodes of a type put their entries into the plan. -/
lemma outcome_planType {users : List HelperUser} (h : ∀ user ∈ users, user.Renders)
    (plan : Table (Table String)) :
    (planType plan users).outcome = .ok (planWith plan (typeEntries users)) := by
  cases users with
  | nil => rfl
  | cons first users =>
    have hvariants : (first :: users).mapM (fun user => user.variant.outcome) =
        .ok ((first :: users).map fun user => (user.scope.node.id, user.code)) :=
      mapM_eq_ok_map fun user huser => HelperUser.outcome_variant (h user huser)
    unfold planType
    simp only [Traced.outcome_bind, Traced.outcome_mapM, hvariants, Traced.outcome_pure]
    show Except.ok (List.foldl _ _ (List.tail _)) = _
    rw [groups_variants, ← List.map_tail, List.foldl_map]
    unfold typeEntries
    rw [planWith_flatMap]
    simp only [planGroup_eq]

/-! ### The entries of all types -/

/-- The members of a group share the names that end with the id of its first member. -/
lemma mem_groupEntries_iff {names ids : List String} {id : String} {table : Table String} :
    (id, table) ∈ groupEntries names ids ↔
      id ∈ ids ∧ ∃ first, ids.head? = some first ∧ table = suffixed names first := by
  cases ids with
  | nil => simp [groupEntries]
  | cons first ids =>
    unfold groupEntries
    constructor
    · intro h
      obtain ⟨id', hid', heq⟩ := List.mem_map.mp h
      cases heq
      exact ⟨hid', first, rfl, rfl⟩
    · rintro ⟨hid, first', hfirst, rfl⟩
      cases hfirst
      exact List.mem_map.mpr ⟨id, hid, rfl⟩

/-- The later groups of a list begin with other keys than the first. -/
lemma mem_tail_eraseDups_cons_iff {first name : String} {names : List String} :
    name ∈ (first :: names).eraseDups.tail ↔ name ∈ first :: names ∧ name ≠ first := by
  rw [List.eraseDups_cons, List.tail_cons, List.mem_eraseDups, List.mem_filter]
  constructor
  · rintro ⟨hmem, hne⟩
    exact ⟨List.mem_cons_of_mem first hmem, by simpa using hne⟩
  · rintro ⟨hmem, hne⟩
    exact ⟨(List.mem_cons.mp hmem).resolve_left hne, by simpa using hne⟩

/-- A node has an entry exactly when its helper code is not that of the first node; the entry
names the helpers after the first node with the same helper code. -/
lemma mem_typeEntries_iff {first : HelperUser} {others : List HelperUser} {id : String}
    {table : Table String} :
    (id, table) ∈ typeEntries (first :: others) ↔
      ∃ user ∈ first :: others, user.scope.node.id = id ∧ user.code ≠ first.code ∧
        ∃ leader, (first :: others).find? (fun other => other.code == user.code) = some leader ∧
          table = suffixed (Helper.names first.template.toList) leader.scope.node.id := by
  unfold typeEntries
  rw [List.mem_flatMap, List.map_cons]
  constructor
  · rintro ⟨code, hcode, h⟩
    rw [mem_tail_eraseDups_cons_iff] at hcode
    obtain ⟨hid, leaderId, hhead, rfl⟩ := mem_groupEntries_iff.mp h
    rw [List.head?_map, List.head?_filter] at hhead
    obtain ⟨leader, hleader, rfl⟩ := Option.map_eq_some_iff.mp hhead
    obtain ⟨user, huser, rfl⟩ := List.mem_map.mp hid
    obtain ⟨hmem, hsame⟩ := List.mem_filter.mp huser
    have hsame : user.code = code := by simpa using hsame
    subst hsame
    exact ⟨user, hmem, rfl, hcode.2, leader, hleader, rfl⟩
  · rintro ⟨user, huser, rfl, hne, leader, hleader, rfl⟩
    refine ⟨user.code, mem_tail_eraseDups_cons_iff.mpr ⟨List.mem_map_of_mem huser, hne⟩,
      mem_groupEntries_iff.mpr ⟨?_, leader.scope.node.id, ?_, rfl⟩⟩
    · exact List.mem_map.mpr ⟨user, List.mem_filter.mpr ⟨huser, by simp⟩, rfl⟩
    · rw [List.head?_map, List.head?_filter, hleader]
      rfl

/-- Whether two nodes have the same type. -/
def HelperUser.sameType (user other : HelperUser) : Bool :=
  other.scope.node.type == user.scope.node.type

lemma HelperUser.type_eq_of_sameType {user other : HelperUser} (h : user.sameType other = true) :
    other.scope.node.type = user.scope.node.type := by
  simpa [HelperUser.sameType] using h

lemma HelperUser.sameType_congr {user other : HelperUser}
    (h : user.scope.node.type = other.scope.node.type) : user.sameType = other.sameType := by
  funext third
  unfold HelperUser.sameType
  rw [h]

/-- The first user with certain code is found among those of its type. -/
lemma HelperUser.find?_filter_sameType (user : HelperUser) (users : List HelperUser) :
    (users.filter user.sameType).find? (fun other => other.code == user.code) =
      users.find? fun other => user.sameType other && other.code == user.code := by
  rw [List.find?_filter]
  refine congrArg (fun p => users.find? p) (funext fun other => ?_)
  cases user.sameType other <;> cases other.code == user.code <;> rfl

/-- The nodes with helpers, by their types. -/
def Scene.usersByType (scene : Scene) : List (List HelperUser) :=
  (scene.helperUsers.map fun user => user.scope.node.type).eraseDups.map fun type =>
    scene.helperUsers.filter fun user => user.scope.node.type == type

lemma Scene.plan_eq (scene : Scene) :
    scene.plan = scene.usersByType.foldlM planType Table.empty := by
  unfold Scene.plan Scene.usersByType
  rw [groupOn_eq, List.map_map]
  rfl

/-- The users of a type are all users that share it. -/
lemma Scene.mem_usersByType_iff {scene : Scene} {users : List HelperUser} :
    users ∈ scene.usersByType ↔ ∃ user ∈ scene.helperUsers,
      users = scene.helperUsers.filter user.sameType := by
  unfold Scene.usersByType
  constructor
  · intro h
    obtain ⟨type, htype, rfl⟩ := List.mem_map.mp h
    obtain ⟨user, huser, rfl⟩ := List.mem_map.mp (List.mem_eraseDups.mp htype)
    exact ⟨user, huser, rfl⟩
  · rintro ⟨user, huser, rfl⟩
    exact List.mem_map.mpr ⟨user.scope.node.type,
      List.mem_eraseDups.mpr (List.mem_map.mpr ⟨user, huser, rfl⟩), rfl⟩

/-- When there is a plan, the helper code of every node can be made. -/
lemma Scene.renders_of_plan {scene : Scene} {plan : Table (Table String)}
    (h : scene.plan.outcome = .ok plan) {user : HelperUser} (huser : user ∈ scene.helperUsers) :
    user.Renders := by
  rw [Scene.plan_eq, Traced.outcome_foldlM] at h
  have hmem : user ∈ scene.helperUsers.filter user.sameType :=
    List.mem_filter.mpr ⟨huser, by simp [HelperUser.sameType]⟩
  obtain ⟨before, after, hstep⟩ :=
    exists_ok_of_foldlM_eq_ok h (Scene.mem_usersByType_iff.mpr ⟨user, huser, rfl⟩)
  unfold planType at hstep
  split at hstep
  · next hnil =>
    rw [hnil] at hmem
    cases hmem
  · rw [Traced.outcome_bind, Traced.outcome_mapM] at hstep
    obtain ⟨variants, hvariants, -⟩ := bind_eq_ok_iff.mp hstep
    obtain ⟨variant, -, hvariant⟩ := exists_ok_of_mapM_eq_ok hvariants hmem
    exact HelperUser.renders_of_variant hvariant

/-- When the helper code of every node can be made, the plan holds the entries of all types. -/
lemma Scene.outcome_plan {scene : Scene} (h : ∀ user ∈ scene.helperUsers, user.Renders) :
    scene.plan.outcome =
      .ok (planWith Table.empty (scene.usersByType.flatMap typeEntries)) := by
  rw [Scene.plan_eq, Traced.outcome_foldlM, planWith_flatMap]
  refine foldlM_eq_ok_foldl (fun plan users husers => outcome_planType ?_ plan) Table.empty
  obtain ⟨user, -, rfl⟩ := Scene.mem_usersByType_iff.mp husers
  exact fun other hother => h other (List.mem_filter.mp hother).1

/-- The first node of a type and the first of its nodes with the same helper code. -/
structure Scene.IsPlanned (scene : Scene) (user first leader : HelperUser) : Prop where
  first_eq : scene.helperUsers.find? user.sameType = some first
  leader_eq : scene.helperUsers.find?
    (fun other => user.sameType other && other.code == user.code) = some leader

/-- A user has one leader. -/
lemma Scene.IsPlanned.unique {scene : Scene} {user first leader first' leader' : HelperUser}
    (h : scene.IsPlanned user first leader) (h' : scene.IsPlanned user first' leader') :
    first = first' ∧ leader = leader' := by
  have hfirst := h.first_eq.symm.trans h'.first_eq
  have hleader := h.leader_eq.symm.trans h'.leader_eq
  exact ⟨Option.some.inj hfirst, Option.some.inj hleader⟩

/-- Every user of helpers has a leader. -/
lemma Scene.exists_isPlanned {scene : Scene} {user : HelperUser}
    (huser : user ∈ scene.helperUsers) : ∃ first leader, scene.IsPlanned user first leader := by
  have hfirst : (scene.helperUsers.find? user.sameType).isSome = true :=
    List.find?_isSome.mpr ⟨user, huser, by simp [HelperUser.sameType]⟩
  have hleader : (scene.helperUsers.find? (fun other =>
      user.sameType other && other.code == user.code)).isSome = true :=
    List.find?_isSome.mpr ⟨user, huser, by simp [HelperUser.sameType]⟩
  obtain ⟨first, hfirst⟩ := Option.isSome_iff_exists.mp hfirst
  obtain ⟨leader, hleader⟩ := Option.isSome_iff_exists.mp hleader
  exact ⟨first, leader, hfirst, hleader⟩

/-- A node has an entry in the plan exactly when its helper code is not that of the first node of
its type; the entry names the helpers after the first node of its type with the same helper code. -/
lemma Scene.mem_planEntries_iff {scene : Scene} {id : String} {table : Table String} :
    (id, table) ∈ scene.usersByType.flatMap typeEntries ↔
      ∃ user ∈ scene.helperUsers, user.scope.node.id = id ∧
        ∃ first leader, scene.IsPlanned user first leader ∧ user.code ≠ first.code ∧
          table = suffixed (Helper.names user.template.toList) leader.scope.node.id := by
  rw [List.mem_flatMap]
  constructor
  · rintro ⟨users, husers, h⟩
    obtain ⟨member, hmember, rfl⟩ := Scene.mem_usersByType_iff.mp husers
    cases hfilter : scene.helperUsers.filter member.sameType with
    | nil =>
      rw [hfilter] at h
      cases h
    | cons first others =>
      rw [hfilter] at h
      obtain ⟨user, huser, hid, hne, leader, hleader, htable⟩ := mem_typeEntries_iff.mp h
      rw [← hfilter] at huser hleader
      obtain ⟨huser, htype⟩ := List.mem_filter.mp huser
      have hsame : member.sameType = user.sameType :=
        HelperUser.sameType_congr (HelperUser.type_eq_of_sameType htype).symm
      have hfirst : scene.helperUsers.find? user.sameType = some first := by
        rw [← hsame, ← List.head?_filter, hfilter]
        rfl
      have htemplate : first.template = user.template :=
        Scene.template_eq_of_type (List.mem_of_find?_eq_some hfirst) huser
          (HelperUser.type_eq_of_sameType (List.find?_some hfirst))
      rw [hsame, HelperUser.find?_filter_sameType] at hleader
      rw [htemplate] at htable
      exact ⟨user, huser, hid, first, leader, ⟨hfirst, hleader⟩, hne, htable⟩
  · rintro ⟨user, huser, hid, first, leader, hplanned, hne, rfl⟩
    have hfirst := hplanned.first_eq
    have hleader := hplanned.leader_eq
    have htemplate : first.template = user.template :=
      Scene.template_eq_of_type (List.mem_of_find?_eq_some hfirst) huser
        (HelperUser.type_eq_of_sameType (List.find?_some hfirst))
    refine ⟨_, Scene.mem_usersByType_iff.mpr ⟨user, huser, rfl⟩, ?_⟩
    rw [← List.head?_filter] at hfirst
    obtain ⟨others, hfilter⟩ := List.head?_eq_some_iff.mp hfirst
    have hmem : user ∈ scene.helperUsers.filter user.sameType :=
      List.mem_filter.mpr ⟨huser, by simp [HelperUser.sameType]⟩
    rw [← HelperUser.find?_filter_sameType, hfilter] at hleader
    rw [hfilter] at hmem ⊢
    rw [← htemplate]
    exact mem_typeEntries_iff.mpr ⟨user, hmem, hid, hne, leader, hleader, rfl⟩

/-- Only nodes with helpers have entries. -/
lemma Scene.exists_helperUser_of_plan {scene : Scene} {plan : Table (Table String)}
    (hplan : scene.plan.outcome = .ok plan) {id : String} (h : (plan.find? id).isSome) :
    ∃ user ∈ scene.helperUsers, user.scope.node.id = id := by
  have hplan' := Scene.outcome_plan fun _ => Scene.renders_of_plan hplan
  rw [hplan] at hplan'
  cases hplan'
  by_contra hnone
  have hfind : (planWith Table.empty (scene.usersByType.flatMap typeEntries)).find? id = none := by
    refine Table.find?_insertAll_of_not_mem fun entry hentry heq => hnone ?_
    obtain ⟨user, huser, hid, -⟩ := Scene.mem_planEntries_iff.mp hentry
    exact ⟨user, huser, hid.trans heq⟩
  rw [hfind] at h
  cases h

/-- What the plan says about a node with helpers. -/
theorem Scene.find?_plan {scene : Scene} {plan : Table (Table String)}
    (hplan : scene.plan.outcome = .ok plan) {user : HelperUser}
    (huser : user ∈ scene.helperUsers) :
    ∃ first leader, scene.IsPlanned user first leader ∧
      plan.find? user.scope.node.id =
        if user.code = first.code then none
        else some (suffixed (Helper.names user.template.toList) leader.scope.node.id) := by
  have hplan' := Scene.outcome_plan fun _ => Scene.renders_of_plan hplan
  rw [hplan] at hplan'
  cases hplan'
  obtain ⟨first, leader, hplanned⟩ := Scene.exists_isPlanned huser
  refine ⟨first, leader, hplanned, ?_⟩
  -- all entries of the node are about the node itself, and so agree
  have hentry : ∀ entry ∈ scene.usersByType.flatMap typeEntries,
      entry.1 = user.scope.node.id → user.code ≠ first.code ∧
        entry.2 = suffixed (Helper.names user.template.toList) leader.scope.node.id := by
    rintro ⟨id, table⟩ hentry heq
    obtain ⟨user', huser', hid', first', leader', hplanned', hne, htable⟩ :=
      Scene.mem_planEntries_iff.mp hentry
    have hsame : user' = user := Scene.helperUser_eq_of_id huser' huser (hid'.trans heq)
    subst hsame
    obtain ⟨rfl, rfl⟩ := hplanned'.unique hplanned
    exact ⟨hne, htable⟩
  by_cases hcode : user.code = first.code
  · rw [if_pos hcode]
    exact Table.find?_insertAll_of_not_mem fun entry hmem heq => (hentry entry hmem heq).1 hcode
  · rw [if_neg hcode]
    refine Table.find?_insertAll_of_mem ?_ fun entry hmem heq => (hentry entry hmem heq).2
    exact ⟨_, Scene.mem_planEntries_iff.mpr ⟨user, huser, rfl, first, leader, hplanned, hcode, rfl⟩,
      rfl⟩

end ShaderLoom
