import ShaderLoom.Palette
import ShaderLoom.Proofs.AddedNodes

/-!
# Which node is shown

Of several sinks, the first from which no wire leads is shown, in the order in which the nodes were
added, and when wires lead from all of them, the one that runs last.  The order of the nodes
therefore matters to the final color in one case only: when no wire leads from two sinks or more.
In all other cases the nodes can be added in any order.
-/

namespace ShaderLoom

/-! ### Places -/

/-- A node stands at its place in the order. -/
lemma getElem?_of_lastPosition {id : String} {order : List String} {i : Nat}
    (h : lastPosition id order = some i) : order[i]? = some id := by
  obtain ⟨before, after, rfl, -, rfl⟩ := lastPosition_eq_some_iff.mp h
  simp

namespace Scene

variable {scene : Scene}

/-- Nodes that run have places of their own. -/
lemma eq_of_place_eq {id id' : String} (hid : id ∈ scene.order) (hid' : id' ∈ scene.order)
    (h : scene.place id = scene.place id') : id = id' := by
  have hplace : ∀ id ∈ scene.order, ∃ i : Nat, scene.place id = i ∧ scene.order[i]? = some id := by
    intro id hid
    cases hposition : scene.position? id with
    | none => exact absurd hid (lastPosition_eq_none_iff.mp hposition)
    | some i =>
      refine ⟨i, ?_, getElem?_of_lastPosition hposition⟩
      unfold place
      rw [hposition]
  obtain ⟨i, hi, hget⟩ := hplace id hid
  obtain ⟨j, hj, hget'⟩ := hplace id' hid'
  have hsame : i = j := by omega
  rw [hsame, hget'] at hget
  exact (Option.some.inj hget).symm

/-- No node runs after the one that runs last. -/
lemma place_le_place_latest (first : String) (others : List String) :
    ∀ id ∈ first :: others, scene.place id ≤ scene.place (scene.latest first others) := by
  induction others generalizing first with
  | nil =>
    intro id hid
    rw [List.mem_singleton.mp hid]
    exact le_refl (scene.place first)
  | cons second others ih =>
    rw [latest_cons]
    split
    · next hlt =>
      have hsecond := ih second second List.mem_cons_self
      exact List.forall_mem_cons.mpr ⟨le_trans (le_of_lt hlt) hsecond, ih second⟩
    · next hge =>
      have hle := List.forall_mem_cons.mp (ih first)
      have hsecond := le_trans (not_lt.mp hge) hle.1
      exact List.forall_mem_cons.mpr ⟨hle.1, List.forall_mem_cons.mpr ⟨hsecond, hle.2⟩⟩

/-- Whichever node the search starts from, it finds the same node. -/
lemma latest_eq_of_perm {first first' : String} {others others' : List String}
    (h : (first :: others).Perm (first' :: others')) (hruns : ∀ id ∈ first :: others,
      id ∈ scene.order) : scene.latest first others = scene.latest first' others' := by
  have hmem := scene.latest_mem first others
  have hmem' := h.mem_iff.mpr (scene.latest_mem first' others')
  refine eq_of_place_eq (hruns _ hmem) (hruns _ hmem') (le_antisymm ?_ ?_)
  · exact place_le_place_latest first' others' _ (h.mem_iff.mp hmem)
  · exact place_le_place_latest first others _ hmem'

/-! ### The choice of a sink -/

/-- The sinks from which no wire leads, in the order of the nodes. -/
def leafSinks (scene : Scene) : List String :=
  scene.sinks.filter fun id => !scene.graph.sources.contains id

/-- The sink that runs last. -/
def lastSink? (scene : Scene) : Option String :=
  match scene.sinks with
  | [] => none
  | first :: others => some (scene.latest first others)

/-- The first sink from which no wire leads is shown, and without such a sink the last one. -/
lemma sink?_eq_or (scene : Scene) : scene.sink? = scene.leafSinks.head?.or scene.lastSink? := by
  unfold sink? leafSinks lastSink?
  rw [List.head?_filter]
  split
  · next heq =>
    rw [heq]
    rfl
  · next only heq =>
    rw [heq, List.find?_singleton]
    split <;> rfl
  · next first others hothers heq =>
    rw [heq]
    cases (first :: others).find? fun id => !scene.graph.sources.contains id <;> rfl

/-- A sink that is chosen is what the scene shows. -/
lemma finalColor_of_sink? {sink : String} (h : scene.sink? = some sink) :
    scene.finalColor = (do return ⟨← scene.sinkColor sink, some sink⟩) := by
  unfold finalColor
  rw [h]

/-- The sinks of a scene are ids of its nodes. -/
lemma exists_node_of_mem_sinks {id : String} (h : id ∈ scene.sinks) :
    ∃ node ∈ scene.graph.nodes, node.id = id := by
  obtain ⟨node, hnode, hid⟩ := List.mem_map.mp h
  exact ⟨node, List.mem_of_mem_filter hnode, hid⟩

/-! ### Without a sink -/

namespace Agrees

variable {a b : Scene} (h : a.Agrees b)

include h

lemma shownOutputs_eq (id : String) : a.shownOutputs id = b.shownOutputs id := by
  unfold shownOutputs
  rw [h.node? id, h.agreesOn.typeOf? trivial, h.settings, h.ports id]

/-- Both scenes find the same color. -/
lemma colorFrom?_eq (p : PortType → Bool) (ids : List String) :
    a.colorFrom? p ids = b.colorFrom? p ids := by
  induction ids with
  | nil => rfl
  | cons id rest ih =>
    unfold colorFrom?
    rw [h.shownOutputs_eq id, ih]

/-- Both scenes fall back to the same color. -/
lemma fallbackColor_eq : a.fallbackColor = b.fallbackColor := by
  unfold fallbackColor
  rw [h.order, h.colorFrom?_eq, h.colorFrom?_eq]

lemma sinkColor_eq (sink : String) : a.sinkColor sink = b.sinkColor sink :=
  (h.agreesOn.sinkColor_eq trivial).symm

/-- Scenes that agree and choose the same sink show the same. -/
lemma finalColor_eq (hsink : a.sink? = b.sink?) : a.finalColor = b.finalColor := by
  unfold finalColor
  rw [hsink, h.fallbackColor_eq]
  cases b.sink? with
  | none => rfl
  | some sink =>
    dsimp only
    rw [h.sinkColor_eq]

end Agrees

/-! ### Nodes in another order -/

/-- The scene with its nodes in another order, and with variables for them. -/
def withNodes (scene : Scene) (nodes : List Node) (variableNames : Variables) : Scene :=
  { scene with graph := { scene.graph with nodes }, variableNames }

/-- Two scenes with the same nodes show the same, or each shows the first of the sinks from which
no wire leads, in its own order.  What a sink shows is the same in both. -/
structure SameColor (a b : Scene) : Prop where
  sinkColor : ∀ sink, a.sinkColor sink = b.sinkColor sink
  leaves : a.leafSinks.Perm b.leafSinks
  /-- One sink without wires from it, or none, leaves no choice. -/
  color : a.leafSinks.length ≤ 1 → a.finalColor = b.finalColor
  /-- Of several, only the first matters. -/
  first : a.leafSinks.head? = b.leafSinks.head? → a.finalColor = b.finalColor
  shown : ∀ sink, b.leafSinks.head? = some sink →
    b.finalColor = (do return ⟨← a.sinkColor sink, some sink⟩)

/-- Variables can be generated for nodes in any order. -/
lemma IsNamed.exists_of_perm (hnamed : scene.IsNamed) {nodes : List Node}
    (hperm : scene.graph.nodes.Perm nodes) :
    ∃ variableNames, (scene.withNodes nodes variableNames).IsNamed := by
  unfold IsNamed at hnamed
  rw [Variables.generate_eq] at hnamed
  show ∃ table,
    nodes.foldlM (Variables.addNode scene.catalog scene.settings) Table.empty = .ok table
  refine exists_foldlM_eq_ok (fun table node hnode => ?_) Table.empty
  obtain ⟨_, _, hstep⟩ := exists_ok_of_foldlM_eq_ok hnamed (hperm.mem_iff.mpr hnode)
  rcases Variables.addNode_eq_ok_iff.mp hstep with ⟨hnone, -⟩ | ⟨type, ports, htype, hports, -⟩
  · exact ⟨table, Variables.addNode_eq_ok_iff.mpr (Or.inl ⟨hnone, rfl⟩)⟩
  · exact ⟨_, Variables.addNode_eq_ok_iff.mpr (Or.inr ⟨type, ports, htype, hports, rfl⟩)⟩

section Permuted

variable (hids : (scene.graph.nodes.map Node.id).Nodup) (hnamed : scene.IsNamed)
  {nodes : List Node} (hperm : scene.graph.nodes.Perm nodes) {variableNames : Variables}
  (hnamed' : (scene.withNodes nodes variableNames).IsNamed)

include hperm

/-- The sinks are the same, in another order. -/
lemma sinks_perm : scene.sinks.Perm (scene.withNodes nodes variableNames).sinks :=
  (hperm.filter _).map Node.id

/-- The sinks that nothing reads are the same, in another order. -/
lemma leafSinks_perm : scene.leafSinks.Perm (scene.withNodes nodes variableNames).leafSinks :=
  (sinks_perm hperm).filter _

/-- The same sink runs last. -/
lemma lastSink?_eq (hruns : ∀ node ∈ scene.graph.nodes, node.id ∈ scene.order) :
    scene.lastSink? = (scene.withNodes nodes variableNames).lastSink? := by
  have hsinks : scene.sinks.Perm (scene.withNodes nodes variableNames).sinks := sinks_perm hperm
  have hlisted : ∀ id ∈ scene.sinks, id ∈ scene.order := by
    intro id hid
    obtain ⟨node, hnode, rfl⟩ := exists_node_of_mem_sinks hid
    exact hruns node hnode
  unfold lastSink?
  cases heq : scene.sinks with
  | nil =>
    rw [heq] at hsinks
    rw [hsinks.symm.eq_nil]
  | cons first others =>
    rw [heq] at hsinks hlisted
    cases heq' : (scene.withNodes nodes variableNames).sinks with
    | nil =>
      rw [heq'] at hsinks
      cases hsinks.eq_nil
    | cons first' others' =>
      rw [heq'] at hsinks
      exact congrArg some (latest_eq_of_perm hsinks hlisted)

/-- The same sink is chosen when the first one without wires from it is the same. -/
lemma sink?_eq_of_head? (hruns : ∀ node ∈ scene.graph.nodes, node.id ∈ scene.order)
    (hhead : scene.leafSinks.head? = (scene.withNodes nodes variableNames).leafSinks.head?) :
    scene.sink? = (scene.withNodes nodes variableNames).sink? := by
  rw [sink?_eq_or, sink?_eq_or, hhead, lastSink?_eq hperm hruns]

include hids hnamed hnamed'

/-- Variables and nodes are found alike. -/
lemma agrees_withNodes : scene.Agrees (scene.withNodes nodes variableNames) where
  wires := rfl
  node? := fun _ =>
    Graph.node?_congr hids ((hperm.map Node.id).nodup_iff.mp hids) fun _ _ => hperm.mem_iff
  catalog := rfl
  ports := fun _ =>
    Variables.ports_congr hids hnamed ((hperm.map Node.id).nodup_iff.mp hids) hnamed'
      fun _ _ => hperm.mem_iff
  order := rfl
  uniforms := fun _ => rfl
  settings := rfl

end Permuted

/-- When all nodes run, the order in which they were added does not change the final color, unless
no wire leads from two sinks or more. -/
theorem sameColor_of_perm {scene : Scene} (hids : (scene.graph.nodes.map Node.id).Nodup)
    (hruns : ∀ node ∈ scene.graph.nodes, node.id ∈ scene.order) (hnamed : scene.IsNamed)
    {nodes : List Node} (hperm : scene.graph.nodes.Perm nodes) :
    ∃ variableNames, (scene.withNodes nodes variableNames).IsNamed ∧
      scene.SameColor (scene.withNodes nodes variableNames) := by
  obtain ⟨variableNames, hnamed'⟩ := hnamed.exists_of_perm hperm
  have hagrees := agrees_withNodes hids hnamed hperm hnamed'
  have hleaves : scene.leafSinks.Perm (scene.withNodes nodes variableNames).leafSinks :=
    leafSinks_perm hperm
  have hfirst : scene.leafSinks.head? = (scene.withNodes nodes variableNames).leafSinks.head? →
      scene.finalColor = (scene.withNodes nodes variableNames).finalColor := fun hhead =>
    hagrees.finalColor_eq (sink?_eq_of_head? hperm hruns hhead)
  refine ⟨variableNames, hnamed', hagrees.sinkColor_eq, hleaves, fun hlength => ?_, hfirst, ?_⟩
  · -- lists of at most one entry have only one order
    refine hfirst (congrArg List.head? ?_)
    cases heq : scene.leafSinks with
    | nil =>
      rw [heq] at hleaves
      exact hleaves.symm.eq_nil.symm
    | cons leaf others =>
      rw [heq, List.length_cons] at hlength
      have hothers : others = [] := List.eq_nil_of_length_eq_zero (by omega)
      rw [heq, hothers] at hleaves
      rw [hothers]
      exact (List.perm_singleton.mp hleaves.symm).symm
  · intro sink hsink
    have hchosen : (scene.withNodes nodes variableNames).sink? = some sink := by
      rw [sink?_eq_or, hsink, Option.some_or]
    rw [finalColor_of_sink? hchosen, hagrees.sinkColor_eq]

/-- A color, a number and two sinks, with the given wires, added in the given order. -/
def twoSinks (nodes : List Node) (wires : List Wire) : Scene :=
  let graph : Graph := { nodes, wires }
  { graph, catalog := Catalog.standard, order := ["c", "d", "o1", "o2"]
    uniforms := Table.empty, renames := Table.empty, settings := {}
    variableNames := (Variables.generate graph Catalog.standard {}).toOption.getD Table.empty }

/-- These nodes, in the order in which they run. -/
def twoSinksNodes : List Node :=
  [⟨"c", "constant-vec3", Table.empty, Table.empty⟩,
   ⟨"d", "constant-float", Table.empty, Table.empty⟩,
   ⟨"o1", "final-output", Table.empty, Table.empty⟩,
   ⟨"o2", "final-output", Table.empty, Table.empty⟩]

/-- The second sink reads the first. -/
def chainedSinks : Scene :=
  twoSinks twoSinksNodes [⟨"c", "out", "o1", .port "in"⟩, ⟨"o1", "out", "o2", .port "in"⟩]

/-- A sink that is read by another one is not shown, wherever it stands. -/
theorem sameColor_of_perm_chainedSinks :
    chainedSinks.sinks = ["o1", "o2"] ∧ chainedSinks.leafSinks = ["o2"] ∧
      chainedSinks.finalColor.outcome.toOption = some ⟨"node_o1_out", some "o2"⟩ ∧
      ∃ variableNames, (chainedSinks.withNodes twoSinksNodes.reverse variableNames).IsNamed ∧
        chainedSinks.SameColor (chainedSinks.withNodes twoSinksNodes.reverse variableNames) := by
  have hnamed : chainedSinks.IsNamed :=
    eq_ok_of_isSome_toOption Table.empty (by decide +kernel)
  refine ⟨by decide +kernel, by decide +kernel, by decide +kernel, ?_⟩
  exact sameColor_of_perm (by decide) (by decide) hnamed (List.reverse_perm twoSinksNodes).symm

/-- The scene with the nodes in the given order, and a wire into each sink. -/
def separateSinks (nodes : List Node) : Scene :=
  twoSinks nodes [⟨"c", "out", "o1", .port "in"⟩, ⟨"d", "out", "o2", .port "in"⟩]

/-- When no wire leads from two sinks, the one that was added first is shown. -/
theorem finalColor_separateSinks_ne :
    ∃ nodes, twoSinksNodes.Perm nodes ∧ (twoSinksNodes.map Node.id).Nodup ∧
      (∀ node ∈ twoSinksNodes, node.id ∈ (separateSinks twoSinksNodes).order) ∧
      (separateSinks twoSinksNodes).IsNamed ∧ (separateSinks nodes).IsNamed ∧
      separateSinks nodes =
        (separateSinks twoSinksNodes).withNodes nodes (separateSinks nodes).variableNames ∧
      (separateSinks twoSinksNodes).finalColor.outcome.toOption =
        some ⟨"node_c_out", some "o1"⟩ ∧
      (separateSinks nodes).finalColor.outcome.toOption = some ⟨"vec3(node_d_out)", some "o2"⟩ :=
  ⟨[⟨"c", "constant-vec3", Table.empty, Table.empty⟩,
    ⟨"d", "constant-float", Table.empty, Table.empty⟩,
    ⟨"o2", "final-output", Table.empty, Table.empty⟩,
    ⟨"o1", "final-output", Table.empty, Table.empty⟩],
    .cons _ (.cons _ (.swap _ _ [])), by decide, by decide,
    eq_ok_of_isSome_toOption Table.empty (by decide +kernel),
    eq_ok_of_isSome_toOption Table.empty (by decide +kernel), rfl, by decide +kernel,
    by decide +kernel⟩

end Scene

end ShaderLoom
