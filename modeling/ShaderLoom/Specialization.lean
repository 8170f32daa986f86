import ShaderLoom.Emission
import ShaderLoom.Helper.Basic

/-!
# Specialized helpers

The nodes of one type share their helpers, unless the helpers come out differently for some of
them: a parameter inside a helper may be wired for one node and not for another.  Nodes with the
same helper code form a group.  The first group keeps the names of the helpers; in every other
group they are followed by the id of the group's first node.
-/

namespace ShaderLoom

/-- Items with equal keys together, in the order in which the keys first came. -/
def groupOn {α : Type} (key : α → String) (items : List α) : List (String × List α) :=
  (items.foldl (fun groups item =>
    groups.insert (key item) ((groups.find? (key item)).getD [] ++ [item])) Table.empty).entries

/-- A node whose type has helpers. -/
structure HelperUser where
  scope : Scope
  template : String

namespace Scene

/-- The nodes whose types have helpers, in the order in which their code is written. -/
def helperUsers (scene : Scene) : List HelperUser :=
  (scene.emissionOrder.filterMap (Scope.of? scene)).filterMap fun scope =>
    scope.type.helperTemplate?.map fun template => ⟨scope, template⟩

end Scene

/-- The helper code of a node, with the id of the node. -/
def HelperUser.variant (user : HelperUser) : Traced (String × String) := do
  return (user.scope.node.id, ← user.scope.render user.template)

/-- The new names of helpers whose names are followed by the id of a node. -/
def suffixed (names : List String) (node : String) : Table String :=
  Table.ofList (names.map fun name => (name, name ++ "_" ++ Identifier.clean node))

/-- The plan with the new names for one group of nodes. -/
def planGroup (names : List String) (plan : Table (Table String)) (members : List String) :
    Table (Table String) :=
  match members with
  | [] => plan
  | first :: _ => members.foldl (fun plan id => plan.insert id (suffixed names first)) plan

/-- The plan with the new names for the nodes of one type. -/
def planType (plan : Table (Table String)) (users : List HelperUser) :
    Traced (Table (Table String)) :=
  match users with
  | [] => pure plan
  | first :: _ => do
    let variants ← users.mapM HelperUser.variant
    let groups := (groupOn Prod.snd variants).map fun group => group.2.map Prod.fst
    return groups.tail.foldl (planGroup (Helper.names first.template.toList)) plan

/-- The new names of the helpers of all nodes that need some. -/
def Scene.plan (scene : Scene) : Traced (Table (Table String)) :=
  ((groupOn (fun user => user.scope.node.type) scene.helperUsers).map Prod.snd).foldlM planType
    Table.empty

end ShaderLoom
