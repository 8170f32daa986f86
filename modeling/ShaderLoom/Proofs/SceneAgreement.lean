import ShaderLoom.Proofs.WireSelection

/-!
# Scenes that agree

Two scenes agree when they give the same answers about all nodes and run them in the same order.
Then templates are filled alike, however the scenes keep what they know.  The new names of helpers
are not among these answers: they are used only after a template was filled.
-/

namespace ShaderLoom

/-- Two scenes give the same answers to everything that templates ask. -/
structure Scene.Agrees (a b : Scene) : Prop where
  wires : a.graph.wires = b.graph.wires
  node? : ∀ id, a.node? id = b.node? id
  catalog : a.catalog = b.catalog
  ports : ∀ id, a.variableNames.ports id = b.variableNames.ports id
  order : a.order = b.order
  uniforms : ∀ key, a.uniforms.find? key = b.uniforms.find? key
  settings : a.settings = b.settings

/-- One order gives every wire the same turn. -/
lemma Scope.concordant_of_order_eq {a b : Scene} (h : a.order = b.order) (scope : Scope) :
    scope.Concordant a b := by
  have hposition : b.position? = a.position? := by
    funext id
    unfold Scene.position?
    rw [h]
  refine concordant_of_strictMono (f := id) strictMono_id (fun wire _ _ => ?_) ?_
  · rw [hposition, Option.map_id_apply]
  · unfold deadline
    simp only [inScene, hposition, h, id]

namespace Scene.Agrees

variable {a b : Scene}

/-- Scenes that agree do so on all nodes. -/
lemma agreesOn (h : a.Agrees b) : a.AgreesOn b fun _ => True :=
  ⟨h.wires, fun _ _ => trivial, h.catalog, h.settings, fun id _ => h.node? id,
    fun id _ => h.ports id, h.uniforms⟩

/-- Scenes that agree have the same variables. -/
lemma lookup (h : a.Agrees b) (node port : String) :
    a.variableNames.lookup node port = b.variableNames.lookup node port :=
  h.agreesOn.lookup trivial port

/-- Scenes that agree do so on what is read by any node. -/
lemma agreesIn (h : a.Agrees b) (scope : Scope) : scope.AgreesIn a b :=
  Scope.agreesIn_of_concordant h.agreesOn (Scope.concordant_of_order_eq h.order scope) trivial

/-- Templates are filled alike in scenes that agree. -/
theorem render_eq (h : a.Agrees b) (scope : Scope) (template : String) :
    (scope.inScene a).render template = (scope.inScene b).render template :=
  (h.agreesIn scope).render_eq template

/-- The same nodes have scopes in scenes that agree. -/
lemma of?_eq (h : a.Agrees b) (id : String) :
    Scope.of? b id = (Scope.of? a id).map fun scope => scope.inScene b :=
  h.agreesOn.of?_eq trivial

end Scene.Agrees

/-- The scene with new names for helpers. -/
def Scene.withRenames (scene : Scene) (renames : Table (Table String)) : Scene :=
  { scene with renames }

/-- New names of helpers are no part of what templates ask. -/
lemma Scene.agrees_renames (scene : Scene) (renames : Table (Table String)) :
    scene.Agrees (scene.withRenames renames) :=
  ⟨rfl, fun _ => rfl, rfl, fun _ => rfl, rfl, fun _ => rfl, rfl⟩

/-- New names for helpers do not matter to what scenes agree on. -/
lemma Scene.Agrees.withRenames {a b : Scene} (h : a.Agrees b)
    (renames renames' : Table (Table String)) :
    (a.withRenames renames).Agrees (b.withRenames renames') :=
  ⟨h.wires, h.node?, h.catalog, h.ports, h.order, h.uniforms, h.settings⟩

end ShaderLoom
