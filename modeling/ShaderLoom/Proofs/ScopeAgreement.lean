import ShaderLoom.Emission
import ShaderLoom.Proofs.Outcomes

/-!
# What a node asks its scene

The code of a node is made from few answers of its scene: what the inputs of the node and its wired
parameters stand for, and what its own outputs and uniforms are called.  Where two scenes give the
same answers, they make the same code and the same remarks, however the scenes keep what they know.
The new names of helpers are not among these answers: they are used only after the code was made.
-/

namespace ShaderLoom

namespace Scope

/-- The scope of the same node in another scene. -/
def inScene (scope : Scope) (scene : Scene) : Scope := { scope with scene }

/-- Two scenes give the same answers to everything that the code of a node asks. -/
structure AgreesIn (scope : Scope) (a b : Scene) : Prop where
  settings : a.settings = b.settings
  ports : a.variableNames.ports scope.node.id = b.variableNames.ports scope.node.id
  uniform? : ∀ name, a.uniform? scope.node.id name = b.uniform? scope.node.id name
  inputs : (scope.inScene a).inputs = (scope.inScene b).inputs
  parameterWires : (scope.inScene a).parameterWires = (scope.inScene b).parameterWires

namespace AgreesIn

variable {scope : Scope} {a b : Scene} (h : scope.AgreesIn a b)

include h

/-! ### Placeholders -/

lemma settings_inScene : (scope.inScene a).scene.settings = (scope.inScene b).scene.settings :=
  h.settings

lemma lookup (port : String) :
    a.variableNames.lookup scope.node.id port = b.variableNames.lookup scope.node.id port := by
  unfold Variables.lookup
  rw [h.ports]

/-- The node reads its numbers alike in both scenes. -/
lemma numericParameter_eq (name : String) (parameter : Parameter) :
    (scope.inScene a).numericParameter name parameter =
      (scope.inScene b).numericParameter name parameter := by
  unfold numericParameter readNumber joinedValue
  rw [h.parameterWires]
  simp only [inScene, h.uniform?]
  rfl

/-- The node reads its parameters alike in both scenes. -/
lemma param_eq (name : String) (index : Option String) :
    (scope.inScene a).param name index = (scope.inScene b).param name index := by
  unfold param
  simp only [h.numericParameter_eq]
  rfl

/-- The node reads its inputs alike in both scenes. -/
lemma input_eq (port : String) :
    (scope.inScene a).input port = (scope.inScene b).input port := by
  unfold input readInput
  rw [h.inputs]
  rfl

/-- The node writes its outputs alike in both scenes. -/
lemma output_eq (port : String) :
    (scope.inScene a).output port = (scope.inScene b).output port := by
  unfold output
  simp only [inScene, h.lookup]

/-- The node answers its templates alike in both scenes. -/
lemma resolver_eq : (scope.inScene a).resolver = (scope.inScene b).resolver := by
  have hglobal : (scope.inScene a).global = (scope.inScene b).global := by
    funext value
    cases value <;> simp only [global, inScene, h.settings]
  have hresult : (scope.inScene a).result = (scope.inScene b).result := by
    simp only [result, inScene, h.ports]
  unfold resolver
  rw [hglobal, hresult, funext h.input_eq, funext h.output_eq,
    funext fun name => funext (h.param_eq name)]

/-- Templates are filled alike. -/
theorem render_eq (template : String) :
    (scope.inScene a).render template = (scope.inScene b).render template := by
  unfold render
  rw [h.resolver_eq]

/-! ### The code of the node -/

/-- The node copies the same uniforms in both scenes. -/
lemma copyUniforms_eq (ports : List String) :
    (scope.inScene a).copyUniforms ports = (scope.inScene b).copyUniforms ports := by
  have hlookup : ∀ port,
      (scope.inScene a).scene.variableNames.lookup (scope.inScene a).node.id port =
        (scope.inScene b).scene.variableNames.lookup (scope.inScene b).node.id port := h.lookup
  have huniform : ∀ port, (scope.inScene a).scene.uniform? (scope.inScene a).node.id port =
      (scope.inScene b).scene.uniform? (scope.inScene b).node.id port := h.uniform?
  induction ports with
  | nil => rfl
  | cons port rest ih =>
    unfold copyUniforms
    rw [hlookup, huniform, ih]
    rfl

/-- The node selects the same lanes in both scenes. -/
lemma swizzleCode_eq : (scope.inScene a).swizzleCode = (scope.inScene b).swizzleCode := by
  unfold swizzleCode
  rw [h.input_eq, h.output_eq, h.settings_inScene]
  rfl

/-- The node declares the same arrays in both scenes. -/
lemma arrayDeclarations_eq :
    (scope.inScene a).arrayDeclarations = (scope.inScene b).arrayDeclarations := by
  unfold arrayDeclarations declareArrays
  rw [h.settings_inScene]
  rfl

/-- The node has the same code from its template in both scenes. -/
lemma templateCode_eq : (scope.inScene a).templateCode = (scope.inScene b).templateCode := by
  unfold templateCode
  rw [h.arrayDeclarations_eq, h.render_eq]
  rfl

/-- The code of the node before its helpers are renamed is the same. -/
theorem emit_eq : (scope.inScene a).emit = (scope.inScene b).emit := by
  unfold emit
  rw [h.settings_inScene, h.swizzleCode_eq, h.templateCode_eq, funext h.copyUniforms_eq]
  rfl

/-- So is the code of the node under the same names of helpers. -/
lemma body_eq (hrenames : a.renamesOf scope.node.id = b.renamesOf scope.node.id) :
    (scope.inScene a).body = (scope.inScene b).body := by
  have hnames : (scope.inScene a).scene.renamesOf (scope.inScene a).node.id =
      (scope.inScene b).scene.renamesOf (scope.inScene b).node.id := hrenames
  unfold body
  rw [h.emit_eq, hnames]

end AgreesIn

end Scope

end ShaderLoom
