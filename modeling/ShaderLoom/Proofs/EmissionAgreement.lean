import ShaderLoom.Program
import ShaderLoom.Proofs.HelperPlan
import ShaderLoom.Proofs.SceneAgreement
import ShaderLoom.Proofs.SceneNodes

/-!
# The code of scenes that agree

A node that is given the same answers in two scenes has the same block.  The plan of names for
helpers, and the helpers themselves, are made from the nodes with helpers and from nothing else:
they are the same where the same nodes have helpers and are given the same answers.
-/

namespace ShaderLoom

/-- The scope of a node of a scene is in that scene. -/
lemma Scope.inScene_of_of? {scene : Scene} {id : String} {scope : Scope}
    (h : Scope.of? scene id = some scope) : scope.inScene scene = scope := by
  obtain ⟨node, type, -, -, rfl⟩ := Scope.of?_eq_some_iff.mp h
  rfl

/-! ### Blocks -/

/-- A node whose code is the same in two scenes has the same block. -/
lemma Scene.AgreesOn.block?_eq {a b : Scene} {ids : String → Prop} (h : a.AgreesOn b ids)
    {id : String} (hid : ids id)
    (hbody : ∀ scope, Scope.of? a id = some scope →
      (scope.inScene a).body = (scope.inScene b).body) : a.block? id = b.block? id := by
  unfold Scene.block?
  rw [h.of?_eq hid, h.node? id hid]
  cases hof : Scope.of? a id with
  | none => rfl
  | some scope =>
    have hbody := hbody scope hof
    rw [Scope.inScene_of_of? hof] at hbody
    rw [Option.map_some]
    dsimp only
    rw [hbody]
    rfl

/-! ### Helpers -/

/-- The same node as a user of helpers in another scene. -/
def HelperUser.inScene (user : HelperUser) (scene : Scene) : HelperUser :=
  ⟨user.scope.inScene scene, user.template⟩

/-- The helper code of a node under the names of the plan. -/
def HelperUser.renamed (user : HelperUser) : Traced (List Char) := do
  let rendered ← user.scope.render user.template
  Helper.renameAll (user.scope.scene.renamesOf user.scope.node.id) rendered.toList

/-- Only nodes with helpers bring helpers in. -/
lemma Scene.helpers_eq (scene : Scene) :
    scene.helpers = Helper.distinct <$> scene.helperUsers.mapM HelperUser.renamed := by
  have husers : scene.helperUsers.mapM HelperUser.renamed = (fun found => found.filterMap id) <$>
      (scene.emissionOrder.filterMap (Scope.of? scene)).mapM Scope.helperCode := by
    refine Traced.mapM_filterMap (fun scope _ hnone => ?_) fun scope _ user hsome => ?_
    · rw [Option.map_eq_none_iff] at hnone
      unfold Scope.helperCode
      rw [hnone]
    · obtain ⟨template, htemplate, rfl⟩ := Option.map_eq_some_iff.mp hsome
      unfold Scope.helperCode HelperUser.renamed
      rw [htemplate]
      simp
  rw [husers]
  unfold helpers
  simp

/-- The same nodes have helpers in both scenes, and are given the same answers. -/
structure Scene.SameHelpers (a b : Scene) : Prop where
  users : b.helperUsers = a.helperUsers.map fun user => user.inScene b
  answers : ∀ user ∈ a.helperUsers, user.scope.AgreesIn a b

namespace Scene.SameHelpers

variable {a b : Scene} (h : a.SameHelpers b)

include h

omit h in
lemma inScene_of_mem {user : HelperUser} (huser : user ∈ a.helperUsers) :
    user.inScene a = user := by
  obtain ⟨-, hof, -⟩ := Scene.mem_helperUsers_iff.mp huser
  unfold HelperUser.inScene
  rw [Scope.inScene_of_of? hof]

/-- The helper code of a node is the same. -/
lemma render_eq {user : HelperUser} (huser : user ∈ a.helperUsers) :
    user.scope.render user.template =
      (user.inScene b).scope.render (user.inScene b).template := by
  have hrender : (user.inScene a).scope.render (user.inScene a).template =
      (user.inScene b).scope.render (user.inScene b).template :=
    (h.answers user huser).render_eq user.template
  rw [inScene_of_mem huser] at hrender
  exact hrender

/-- A user has the same variant of its helpers in both scenes. -/
lemma variant_eq {user : HelperUser} (huser : user ∈ a.helperUsers) :
    user.variant = (user.inScene b).variant := by
  unfold HelperUser.variant
  rw [h.render_eq huser]
  rfl

/-- The helpers are the same under the same names. -/
theorem helpers_eq (hrenames : ∀ id, a.renamesOf id = b.renamesOf id) : a.helpers = b.helpers := by
  rw [Scene.helpers_eq, Scene.helpers_eq, h.users, List.mapM_map]
  refine congrArg (Helper.distinct <$> ·) (Traced.mapM_congr fun user huser => ?_)
  have hnames : user.scope.scene.renamesOf user.scope.node.id =
      (user.inScene b).scope.scene.renamesOf (user.inScene b).scope.node.id := by
    rw [← inScene_of_mem huser]
    exact hrenames user.scope.node.id
  show user.renamed = (user.inScene b).renamed
  unfold HelperUser.renamed
  rw [h.render_eq huser, hnames]

/-- The users are grouped alike in both scenes. -/
lemma usersByType_eq :
    b.usersByType = a.usersByType.map fun users => users.map fun user => user.inScene b := by
  unfold Scene.usersByType
  rw [h.users, List.map_map, List.map_map]
  refine List.map_congr_left fun type _ => ?_
  exact List.filter_map

/-- The users of a type get the same names in both scenes. -/
lemma planType_eq {users : List HelperUser} (husers : ∀ user ∈ users, user ∈ a.helperUsers)
    (plan : Table (Table String)) :
    planType plan users = planType plan (users.map fun user => user.inScene b) := by
  have hvariants : users.mapM HelperUser.variant =
      (users.map fun user => user.inScene b).mapM HelperUser.variant := by
    rw [List.mapM_map]
    exact Traced.mapM_congr fun user huser => h.variant_eq (husers user huser)
  cases users with
  | nil => rfl
  | cons first others =>
    rw [List.map_cons] at hvariants ⊢
    unfold planType
    dsimp only
    rw [hvariants]
    rfl

/-- The same names are planned. -/
theorem plan_eq : a.plan = b.plan := by
  rw [Scene.plan_eq, Scene.plan_eq, h.usersByType_eq, List.foldlM_map]
  refine Traced.foldlM_congr (fun plan users husers => h.planType_eq ?_ plan) Table.empty
  obtain ⟨user, -, rfl⟩ := Scene.mem_usersByType_iff.mp husers
  exact fun other hother => (List.mem_filter.mp hother).1

end Scene.SameHelpers

/-! ### Scenes that agree -/

namespace Scene.Agrees

variable {a b : Scene}

/-- Scenes that agree write the same blocks. -/
theorem blocks_eq (h : a.Agrees b) (hrenames : ∀ id, a.renamesOf id = b.renamesOf id) :
    a.blocks = b.blocks := by
  have hblock : a.block? = b.block? := by
    funext id
    exact h.agreesOn.block?_eq trivial fun scope _ => (h.agreesIn scope).body_eq (hrenames _)
  unfold Scene.blocks
  rw [h.order, hblock]

section Helpers

variable (h : a.Agrees b) (hemission : a.emissionOrder = b.emissionOrder)

include h hemission

/-- The same nodes are emitted in both scenes. -/
lemma scopes_eq : b.emissionOrder.filterMap (Scope.of? b) =
    (a.emissionOrder.filterMap (Scope.of? a)).map fun scope => scope.inScene b := by
  rw [List.map_filterMap, ← hemission, ← funext h.of?_eq]

/-- Both scenes have the same helpers. -/
lemma sameHelpers : a.SameHelpers b := by
  refine ⟨?_, fun user _ => h.agreesIn user.scope⟩
  unfold Scene.helperUsers
  rw [h.scopes_eq hemission, List.filterMap_map, List.map_filterMap]
  refine List.filterMap_congr fun scope _ => ?_
  show Option.map _ scope.type.helperTemplate? = Option.map _ (Option.map _ _)
  rw [Option.map_map]
  rfl

/-- Scenes that agree write the same helpers, when nodes come in the same order. -/
theorem helpers_eq (hrenames : ∀ id, a.renamesOf id = b.renamesOf id) : a.helpers = b.helpers :=
  (h.sameHelpers hemission).helpers_eq hrenames

/-- Scenes that agree plan the same names, when nodes come in the same order. -/
theorem plan_eq : a.plan = b.plan :=
  (h.sameHelpers hemission).plan_eq

end Helpers

end Scene.Agrees

end ShaderLoom
