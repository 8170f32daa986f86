import Mathlib.Data.List.Pairwise
import ShaderLoom.Proofs.EmissionAgreement

/-!
# Orders in which nodes may run

The order matters to the code of a node only where several wires lead into one parameter, or where
a wire into a parameter comes from a node that runs later and so is passed over.  When there is at
most one wire into every parameter, and its source runs first, all orders give every node the same
code.  They also give it the same helper code, so the same nodes share their helpers.
-/

namespace ShaderLoom

/-- The order lists every node once, and the source of a wire into a parameter before the node that
the parameter belongs to. -/
structure Graph.IsRunOrder (graph : Graph) (order : List String) : Prop where
  perm : order.Perm (graph.nodes.map Node.id)
  sourceFirst : ∀ id ∈ order, ∀ entry ∈ graph.parameterWires id,
    entry.1.source ∈ order → order.idxOf entry.1.source < order.idxOf id

/-- The parameters that wires lead into, each with its node. -/
def Graph.wiredParameters (graph : Graph) : List (String × String) :=
  graph.wires.filterMap fun wire => wire.parameter?.map (wire.node, ·)

/-- When no parameter is listed twice, there is at most one wire into it. -/
lemma Graph.wire_eq_of_nodup {graph : Graph} (h : graph.wiredParameters.Nodup) {id name : String}
    {wire other : Wire} (hwire : (wire, name) ∈ graph.parameterWires id)
    (hother : (other, name) ∈ graph.parameterWires id) : wire = other := by
  obtain ⟨hmem, hnode, htarget⟩ := mem_parameterWires_iff.mp hwire
  obtain ⟨hmem', hnode', htarget'⟩ := mem_parameterWires_iff.mp hother
  have hpairwise := List.pairwise_filterMap.mp h
  by_contra hne
  refine @List.Pairwise.forall _ _ _ ⟨?_⟩ hpairwise _ hmem _ hmem' hne (id, name) ?_ (id, name) ?_
    rfl
  · intro first second hdiffer entry hentry entry' hentry' heq
    exact hdiffer entry' hentry' entry hentry heq.symm
  · rw [Wire.parameter?, htarget, hnode, Option.map_some]
  · rw [Wire.parameter?, htarget', hnode', Option.map_some]

namespace Scene

/-- The scene with another order. -/
def withOrder (scene : Scene) (order : List String) : Scene := { scene with order }

/-- The code of a node before its helpers are renamed; `none` if the node or its type is not
known. -/
def emitted? (scene : Scene) (id : String) : Option (Traced (Option String)) :=
  (Scope.of? scene id).map Scope.emit

/-- The helper code of the two nodes can be made and is the same. -/
def ShareHelpers (scene : Scene) (id id' : String) : Prop :=
  ∃ text, (scene.helperText? id).map Traced.outcome = some (.ok text) ∧
    (scene.helperText? id').map Traced.outcome = some (.ok text)

/-- Two scenes make the same code for every node, with the same remarks, or fail alike, and the
same nodes share their helpers. -/
structure SameCode (a b : Scene) : Prop where
  emitted : ∀ id, a.emitted? id = b.emitted? id
  helperText : ∀ id, a.helperText? id = b.helperText? id
  share : ∀ id id', a.ShareHelpers id id' ↔ b.ShareHelpers id id'

/-- Scenes make the same code when they answer every node alike. -/
lemma sameCode_of_agreesIn {a b : Scene} {ids : String → Prop} (h : a.AgreesOn b ids)
    (hids : ∀ id, ids id)
    (hscope : ∀ id scope, Scope.of? a id = some scope → scope.AgreesIn a b) : a.SameCode b := by
  have hemitted : ∀ id, a.emitted? id = b.emitted? id := by
    intro id
    unfold emitted?
    rw [h.of?_eq (hids id)]
    cases hof : Scope.of? a id with
    | none => rfl
    | some scope =>
      have hemit := (hscope id scope hof).emit_eq
      rw [Scope.inScene_of_of? hof] at hemit
      exact congrArg some hemit
  have htext : ∀ id, a.helperText? id = b.helperText? id := by
    intro id
    unfold helperText? helperUser?
    rw [h.of?_eq (hids id)]
    cases hof : Scope.of? a id with
    | none => rfl
    | some scope =>
      have hrender := funext (hscope id scope hof).render_eq
      rw [Scope.inScene_of_of? hof] at hrender
      rw [Option.map_some, Option.bind_some, Option.bind_some, Option.map_map, Option.map_map]
      show scope.type.helperTemplate?.map scope.render =
        scope.type.helperTemplate?.map (scope.inScene b).render
      rw [hrender]
  refine ⟨hemitted, htext, fun id id' => ?_⟩
  unfold ShareHelpers
  rw [htext, htext]

section Orders

variable {scene : Scene} {order : List String}

/-- Under a run order a wire into a parameter has its turn exactly when its source is a node. -/
lemma isSome_turn?_iff (h : scene.graph.IsRunOrder order)
    (hids : (scene.graph.nodes.map Node.id).Nodup) {scope : Scope}
    (hscope : scope.node.id ∈ scene.graph.nodes.map Node.id) {entry : Wire × String}
    (hentry : entry ∈ scene.graph.parameterWires scope.node.id) :
    ((scope.inScene (scene.withOrder order)).turn? entry.1).isSome ↔
      entry.1.source ∈ scene.graph.nodes.map Node.id := by
  have horder : order.Nodup := h.perm.nodup_iff.mpr hids
  have hnode : scope.node.id ∈ order := h.perm.mem_iff.mpr hscope
  have hdeadline : (scope.inScene (scene.withOrder order)).deadline =
      order.idxOf scope.node.id := by
    show (lastPosition scope.node.id order).getD order.length = _
    rw [lastPosition_eq_idxOf horder hnode, Option.getD_some]
  rw [Option.isSome_iff_exists]
  simp only [Scope.turn?_eq_some_iff, hdeadline]
  constructor
  · rintro ⟨i, hi, -⟩
    by_contra hsource
    have hnone : lastPosition entry.1.source order = none :=
      lastPosition_eq_none_iff.mpr fun hmem => hsource (h.perm.mem_iff.mp hmem)
    have hi : lastPosition entry.1.source order = some i := hi
    rw [hnone] at hi
    cases hi
  · intro hsource
    have hsource : entry.1.source ∈ order := h.perm.mem_iff.mpr hsource
    exact ⟨_, lastPosition_eq_idxOf horder hsource,
      h.sourceFirst scope.node.id hnode entry hentry hsource⟩

/-- Run orders compare the sources of the wires into a parameter alike: there is at most one. -/
lemma concordant_of_isRunOrder {order' : List String}
    (hids : (scene.graph.nodes.map Node.id).Nodup) (honce : scene.graph.wiredParameters.Nodup)
    (h : scene.graph.IsRunOrder order) (h' : scene.graph.IsRunOrder order') {scope : Scope}
    (hscope : scope.node.id ∈ scene.graph.nodes.map Node.id) :
    scope.Concordant (scene.withOrder order) (scene.withOrder order') := by
  constructor
  · intro wire name hwire
    rw [Bool.eq_iff_iff, isSome_turn?_iff h hids hscope hwire,
      isSome_turn?_iff h' hids hscope hwire]
  · intro wire other name hwire hother i i' j j' hi hi' hj hj'
    obtain rfl := Graph.wire_eq_of_nodup honce hwire hother
    rw [hi] at hj
    rw [hi'] at hj'
    cases hj
    cases hj'
    exact iff_of_true (Nat.le_refl i) (Nat.le_refl i')

end Orders

/-- All orders that list the sources of wires into parameters first make the same code, when there
is at most one wire into every parameter. -/
theorem sameCode_of_isRunOrder {scene : Scene} (hids : (scene.graph.nodes.map Node.id).Nodup)
    (honce : scene.graph.wiredParameters.Nodup) {order order' : List String}
    (h : scene.graph.IsRunOrder order) (h' : scene.graph.IsRunOrder order') :
    (scene.withOrder order).SameCode (scene.withOrder order') := by
  have hagrees : (scene.withOrder order).AgreesOn (scene.withOrder order') fun _ => True :=
    ⟨rfl, fun _ _ => trivial, rfl, rfl, fun _ _ => rfl, fun _ _ => rfl, fun _ => rfl⟩
  refine sameCode_of_agreesIn hagrees (fun _ => trivial) fun id scope hof => ?_
  have hscope : scope.node.id ∈ scene.graph.nodes.map Node.id := by
    obtain ⟨node, type, hnode, -, rfl⟩ := Scope.of?_eq_some_iff.mp hof
    exact List.mem_map_of_mem (Graph.mem_of_node? hnode)
  exact Scope.agreesIn_of_concordant hagrees
    (concordant_of_isRunOrder hids honce h h' hscope) trivial

/-- Two nodes of one type, of which one has a wire into the parameter that their helper holds. -/
def drivenTint : Scene :=
  let graph : Graph :=
    { nodes :=
        [⟨"s", "one", Table.empty, Table.empty⟩, ⟨"a", "tint", Table.empty, Table.empty⟩,
         ⟨"b", "tint", Table.empty, Table.empty⟩]
      wires := [⟨"s", "out", "a", .parameter "strength"⟩] }
  let catalog : Catalog := ⟨Table.ofList
    [("one",
      { id := "one", displayName := "One", category := "Math", inputs := []
        outputs := [⟨"out", .float, none⟩], parameters := Table.empty
        mainCode := "$output.out = 1.0;", functions := none, description := "" }),
     ("tint",
      { id := "tint", displayName := "Tint", category := "Color", inputs := [], outputs := []
        parameters := Table.ofList
          [("strength", ⟨.float, .int 1, .null, .null, .null, none, none⟩)]
        mainCode := "scale($param.strength);"
        functions := some "float scale(float x) \x7b return x * $param.strength; \x7d"
        description := "" })]⟩
  { graph, catalog, order := [], uniforms := Table.empty, renames := Table.empty, settings := {}
    variableNames := (Variables.generate graph catalog {}).toOption.getD Table.empty }

/-- The node without a wire may run last or first. -/
theorem sameCode_of_isRunOrder_drivenTint :
    drivenTint.graph.IsRunOrder ["s", "a", "b"] ∧ drivenTint.graph.IsRunOrder ["b", "s", "a"] ∧
      (drivenTint.withOrder ["s", "a", "b"]).SameCode (drivenTint.withOrder ["b", "s", "a"]) ∧
      (["a", "b"].map fun id => ((drivenTint.withOrder ["b", "s", "a"]).emitted? id).bind
        fun code => code.outcome.toOption) =
          [some (some "scale(node_s_out);"), some (some "scale(1.0);")] := by
  have hfirst : drivenTint.graph.IsRunOrder ["s", "a", "b"] := ⟨by decide, by decide⟩
  have hlast : drivenTint.graph.IsRunOrder ["b", "s", "a"] := ⟨by decide, by decide⟩
  exact ⟨hfirst, hlast, sameCode_of_isRunOrder (by decide) (by decide) hfirst hlast,
    by decide +kernel⟩

end Scene

end ShaderLoom
