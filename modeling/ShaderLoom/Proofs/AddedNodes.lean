import ShaderLoom.FinalColor
import ShaderLoom.Proofs.EmissionAgreement
import ShaderLoom.Proofs.OutputVariables

/-!
# Adding a node that nothing is wired to

A new node without wires changes nothing about the others.  All nodes that run after it move one
place down, but places are only compared with one another, and moving keeps every comparison.  So
the wires into parameters are chosen as before, the same names are planned, the same helpers are
written, the same node is shown, and the blocks of all other nodes stay as they are.
-/

namespace ShaderLoom

/-- The second scene has one more node, at any place among the nodes and at the given place in the
order.  No wire leads to the node or from it, and its type is known, has no helpers and does not
mark the final color. -/
structure Scene.AddsNode (a b : Scene) (node : Node) (before after : List String) : Prop where
  ids : (a.graph.nodes.map Node.id).Nodup
  nodes : ∃ left right, a.graph.nodes = left ++ right ∧ b.graph.nodes = left ++ node :: right
  order : a.order = before ++ after
  order' : b.order = before ++ node.id :: after
  wires : a.graph.wires = b.graph.wires
  catalog : a.catalog = b.catalog
  settings : a.settings = b.settings
  uniforms : a.uniforms = b.uniforms
  named : Variables.generate a.graph a.catalog a.settings = .ok a.variableNames
  named' : Variables.generate b.graph b.catalog b.settings = .ok b.variableNames
  newId : node.id ∉ a.graph.nodes.map Node.id
  idle : node.id ∉ a.order
  unwired : ∀ wire ∈ a.graph.wires, wire.source ≠ node.id ∧ wire.node ≠ node.id
  plain : ∃ type, a.catalog.find? node.type = some type ∧ type.helperTemplate? = none
  notSink : node.type ≠ a.settings.sinkType

namespace Scene

/-- The blocks of the given nodes. -/
def blocksOf (scene : Scene) (ids : List String) : Traced (List Block) := do
  return (← ids.mapM scene.block?).filterMap id

/-- The second scene does with the nodes of the first what the first does. -/
structure Undisturbed (a b : Scene) (added : String) (before after : List String) : Prop where
  plan : b.plan = a.plan
  helpers : ∀ renames, (b.withRenames renames).helpers = (a.withRenames renames).helpers
  /-- The block of the added node, if it has one, stands between the blocks of its neighbours. -/
  blocks : ∀ renames blocks, (b.withRenames renames).blocks.outcome = .ok blocks →
    ∃ first own last, ((a.withRenames renames).blocksOf before).outcome = .ok first ∧
      ((b.withRenames renames).block? added).outcome = .ok own ∧
      ((a.withRenames renames).blocksOf after).outcome = .ok last ∧
      (a.withRenames renames).blocks.outcome = .ok (first ++ last) ∧
      blocks = first ++ own.toList ++ last
  /-- There are blocks as soon as the added node has its code. -/
  made : ∀ renames blocks own, (a.withRenames renames).blocks.outcome = .ok blocks →
    ((b.withRenames renames).block? added).outcome = .ok own →
      ∃ blocks', (b.withRenames renames).blocks.outcome = .ok blocks'
  color : a.sinks ≠ [] → b.finalColor = a.finalColor

/-- The blocks of two groups of nodes, one after the other. -/
lemma blocksOf_append (scene : Scene) (before after : List String) :
    scene.blocksOf (before ++ after) =
      (do return (← scene.blocksOf before) ++ (← scene.blocksOf after)) := by
  unfold blocksOf
  rw [List.mapM_append]
  simp

lemma blocksOf_cons (scene : Scene) (id : String) (after : List String) :
    scene.blocksOf (id :: after) =
      (do return (← scene.block? id).toList ++ (← scene.blocksOf after)) := by
  unfold blocksOf
  rw [List.mapM_cons]
  simp only [bind_assoc, pure_bind]
  congr 1
  funext own
  cases own <;> rfl

/-! ### Places -/

/-- Where a place moves to when a new one comes in at `k`. -/
def movedPlace (k i : Nat) : Nat := if i < k then i else i + 1

/-- Moving keeps the order of places. -/
lemma strictMono_movedPlace (k : Nat) : StrictMono (movedPlace k) := by
  intro i j hij
  unfold movedPlace
  split <;> split <;> omega

/-- A node that is added moves the places of those after it. -/
lemma lastPosition_insert {id added : String} (hne : id ≠ added) (before after : List String) :
    lastPosition id (before ++ added :: after) =
      (lastPosition id (before ++ after)).map (movedPlace before.length) := by
  rw [lastPosition_append, lastPosition_append, lastPosition]
  cases lastPosition id after with
  | some i =>
    have hmoved : movedPlace before.length (before.length + i) = before.length + (i + 1) := by
      unfold movedPlace
      split <;> omega
    simp [hmoved]
  | none =>
    rw [if_neg hne.symm, Option.map_none, Option.none_or]
    cases hplace : lastPosition id before with
    | none => rfl
    | some i =>
      have hlt := lastPosition_lt_length hplace
      simp [movedPlace, hlt]

/-! ### The node that runs last -/

/-- The place of a node in the order, which is below all others if the node does not run. -/
def place (scene : Scene) (id : String) : Int :=
  match scene.position? id with
  | some i => i
  | none => -1

/-- The search for the node that runs last goes on from the later of two nodes. -/
lemma latest_cons (scene : Scene) (first id : String) (others : List String) :
    scene.latest first (id :: others) =
      if scene.place first < scene.place id then scene.latest id others
      else scene.latest first others := by
  have hstep : scene.latest first (id :: others) =
      scene.latest (if scene.place first < scene.place id then id else first) others := rfl
  rw [hstep]
  split <;> rfl

/-- The node that runs last is one of the given ones. -/
lemma latest_mem (scene : Scene) (first : String) (others : List String) :
    scene.latest first others ∈ first :: others := by
  induction others generalizing first with
  | nil => exact List.mem_cons_self
  | cons id others ih =>
    rw [latest_cons]
    split
    · exact List.mem_cons_of_mem first (ih id)
    · rcases List.mem_cons.mp (ih first) with heq | hmem
      · rw [heq]
        exact List.mem_cons_self
      · exact List.mem_cons_of_mem first (List.mem_cons_of_mem id hmem)

/-- The node that marks the final color is one of the sinks. -/
lemma mem_sinks_of_sink? {scene : Scene} {sink : String} (h : scene.sink? = some sink) :
    sink ∈ scene.sinks := by
  unfold sink? at h
  split at h
  · cases h
  · next heq =>
    cases h
    rw [heq]
    exact List.mem_cons_self
  · next heq =>
    rw [heq]
    split at h
    · next hfind =>
      cases h
      exact List.mem_of_find?_eq_some hfind
    · cases h
      exact latest_mem scene _ _

/-- Unless there is no sink, one marks the final color. -/
lemma sinks_eq_nil_of_sink? {scene : Scene} (h : scene.sink? = none) : scene.sinks = [] := by
  unfold sink? at h
  split at h
  · assumption
  · cases h
  · split at h <;> cases h

/-- What a sink shows depends on the sink and on the sources of wires. -/
lemma AgreesOn.sinkColor_eq {a b : Scene} {ids : String → Prop} (h : a.AgreesOn b ids)
    {sink : String} (hsink : ids sink) : b.sinkColor sink = a.sinkColor sink := by
  have hport : b.colorPort = a.colorPort := by
    funext type
    unfold colorPort
    rw [h.settings]
  unfold sinkColor
  rw [hport, ← h.typeOf? hsink, ← h.dataWires]
  cases a.typeOf? sink with
  | none => rfl
  | some type =>
    dsimp only
    generalize hwires : List.filter _ (a.graph.dataWires sink) = wires
    cases hlast : wires.getLast? with
    | none => rfl
    | some entry =>
      obtain ⟨wire, port⟩ := entry
      have hsource : ids wire.source := by
        have hmem := List.mem_of_getLast? hlast
        rw [← hwires] at hmem
        exact h.sources wire (Graph.mem_dataWires_iff.mp (List.mem_of_mem_filter hmem)).1
      dsimp only
      rw [h.typeOf? hsource, h.lookup hsource]

/-- Without the added node the order is the old one. -/
lemma filter_ne_insert {added : String} {before after : List String}
    (h : added ∉ before ++ after) :
    (before ++ added :: after).filter (fun id => id ≠ added) = before ++ after := by
  have hkept : ∀ id ∈ before ++ after, id ≠ added := fun id hid heq => h (heq ▸ hid)
  rw [List.filter_append, List.filter_cons_of_neg (by simp), ← List.filter_append,
    List.filter_eq_self.mpr fun id hid => by simpa using hkept id hid]

namespace AddsNode

variable {a b : Scene} {node : Node} {before after : List String}
  (h : a.AddsNode b node before after)

include h

lemma withRenames (renames renames' : Table (Table String)) :
    (a.withRenames renames).AddsNode (b.withRenames renames') node before after :=
  ⟨h.ids, h.nodes, h.order, h.order', h.wires, h.catalog, h.settings, h.uniforms, h.named, h.named',
    h.newId, h.idle, h.unwired, h.plain, h.notSink⟩

lemma nodup_ids : (b.graph.nodes.map Node.id).Nodup := by
  obtain ⟨left, right, hnodes, hnodes'⟩ := h.nodes
  have hids := h.ids
  have hnew := h.newId
  rw [hnodes, List.map_append] at hids hnew
  rw [hnodes', List.map_append, List.map_cons, List.nodup_middle, List.nodup_cons]
  exact ⟨hnew, hids⟩

/-- The other nodes are the same. -/
lemma mem_nodes_iff {other : Node} (hother : other.id ≠ node.id) :
    other ∈ a.graph.nodes ↔ other ∈ b.graph.nodes := by
  obtain ⟨left, right, hnodes, hnodes'⟩ := h.nodes
  have hne : other ≠ node := fun heq => hother (congrArg Node.id heq)
  rw [hnodes, hnodes']
  simp [hne]

/-- The scenes agree on all nodes but the added one. -/
lemma agreesOn : a.AgreesOn b fun id => id ≠ node.id where
  wires := h.wires
  sources := fun wire hwire => (h.unwired wire hwire).1
  catalog := h.catalog
  settings := h.settings
  node? := by
    intro id hid
    exact Graph.node?_congr h.ids h.nodup_ids fun other hother => h.mem_nodes_iff (hother ▸ hid)
  ports := by
    intro id hid
    have hnamed := h.named
    rw [h.catalog, h.settings] at hnamed
    exact Variables.ports_congr h.ids hnamed h.nodup_ids h.named' fun other hother =>
      h.mem_nodes_iff (hother ▸ hid)
  uniforms := by
    intro key
    rw [h.uniforms]

/-- The places of all other nodes are moved. -/
lemma position?_eq {id : String} (hid : id ≠ node.id) :
    b.position? id = (a.position? id).map (movedPlace before.length) := by
  unfold Scene.position?
  rw [h.order, h.order']
  exact lastPosition_insert hid before after

/-- The deadlines of all other nodes are moved. -/
lemma deadline_eq {scope : Scope} (hid : scope.node.id ≠ node.id) :
    (scope.inScene b).deadline = movedPlace before.length (scope.inScene a).deadline := by
  have hlength : b.order.length = movedPlace before.length a.order.length := by
    rw [h.order, h.order']
    unfold movedPlace
    simp only [List.length_append, List.length_cons]
    split <;> omega
  show (b.position? scope.node.id).getD b.order.length = _
  rw [h.position?_eq hid, hlength]
  show _ = movedPlace before.length ((a.position? scope.node.id).getD a.order.length)
  cases a.position? scope.node.id <;> rfl

/-- The other nodes are given the same answers. -/
lemma agreesIn {scope : Scope} (hid : scope.node.id ≠ node.id) : scope.AgreesIn a b := by
  refine Scope.agreesIn_of_concordant h.agreesOn ?_ hid
  refine Scope.concordant_of_strictMono (strictMono_movedPlace before.length) ?_ (h.deadline_eq hid)
  intro wire name hwire
  exact h.position?_eq (h.unwired wire (Graph.mem_parameterWires_iff.mp hwire).1).1

/-! ### Helpers -/

/-- No node of the first scene is the added one. -/
lemma id_ne_of_of? {id : String} {scope : Scope} (hof : Scope.of? a id = some scope) :
    scope.node.id ≠ node.id := by
  obtain ⟨other, type, hother, -, rfl⟩ := Scope.of?_eq_some_iff.mp hof
  exact fun heq => h.newId (heq ▸ List.mem_map_of_mem (Graph.mem_of_node? hother))

/-- Without the added node, code is written in the same order. -/
lemma filter_emissionOrder :
    b.emissionOrder.filter (fun id => id ≠ node.id) = a.emissionOrder := by
  obtain ⟨left, right, hnodes, hnodes'⟩ := h.nodes
  have hids : (b.graph.nodes.map Node.id).filter (fun id => id ≠ node.id) =
      a.graph.nodes.map Node.id := by
    have hnew := h.newId
    rw [hnodes, List.map_append] at hnew ⊢
    rw [hnodes', List.map_append, List.map_cons]
    exact filter_ne_insert hnew
  have horder : b.order.filter (fun id => id ≠ node.id) = a.order := by
    have hidle := h.idle
    rw [h.order] at hidle ⊢
    rw [h.order']
    exact filter_ne_insert hidle
  unfold emissionOrder
  rw [List.filter_append, horder, List.filter_comm, hids]
  congr 1
  refine List.filter_congr fun id hid => ?_
  have hne : id ≠ node.id := fun heq => h.newId (heq ▸ hid)
  rw [h.order, h.order']
  simp [hne]

/-- The added node has no helpers. -/
lemma helperUser?_added : b.helperUser? node.id = none := by
  obtain ⟨left, right, -, hnodes'⟩ := h.nodes
  obtain ⟨type, htype, htemplate⟩ := h.plain
  have hnode : b.node? node.id = some node := by
    refine Graph.node?_of_mem h.nodup_ids ?_
    rw [hnodes']
    exact List.mem_append_right left List.mem_cons_self
  have hof : Scope.of? b node.id = some { scene := b, node, type } := by
    rw [h.catalog] at htype
    exact Scope.of?_eq_some_iff.mpr ⟨node, type, hnode, htype, rfl⟩
  unfold helperUser?
  rw [hof, Option.bind_some, htemplate, Option.map_none]

/-- Both scenes have the same helpers. -/
lemma sameHelpers : a.SameHelpers b := by
  constructor
  · rw [helperUsers_eq_filterMap, helperUsers_eq_filterMap, ← h.filter_emissionOrder,
      List.filterMap_filter, List.map_filterMap]
    refine List.filterMap_congr fun id _ => ?_
    by_cases hid : id = node.id
    · rw [hid, h.helperUser?_added]
      simp
    · rw [if_pos (by simpa using hid)]
      unfold helperUser?
      rw [h.agreesOn.of?_eq hid]
      cases Scope.of? a id with
      | none => rfl
      | some scope =>
        show Option.map _ scope.type.helperTemplate? = Option.map _ (Option.map _ _)
        rw [Option.map_map]
        rfl
  · intro user huser
    obtain ⟨-, hof, -⟩ := Scene.mem_helperUsers_iff.mp huser
    exact h.agreesIn (h.id_ne_of_of? hof)

/-! ### Blocks -/

/-- The blocks of the other nodes stay as they are. -/
lemma block?_eq (hrenames : a.renames = b.renames) {id : String} (hid : id ≠ node.id) :
    a.block? id = b.block? id := by
  refine h.agreesOn.block?_eq hid fun scope hof => (h.agreesIn (h.id_ne_of_of? hof)).body_eq ?_
  unfold renamesOf
  rw [hrenames]

/-- The blocks of all other nodes are the same. -/
lemma blocksOf_eq (hrenames : a.renames = b.renames) {ids : List String}
    (hids : ∀ id ∈ ids, id ≠ node.id) : a.blocksOf ids = b.blocksOf ids := by
  unfold blocksOf
  rw [Traced.mapM_congr fun id hid => h.block?_eq hrenames (hids id hid)]

/-- All blocks, the added one apart. -/
lemma blocks_eq (hrenames : a.renames = b.renames) :
    a.blocks = (do return (← a.blocksOf before) ++ (← a.blocksOf after)) ∧
      b.blocks = (do
        return (← a.blocksOf before) ++ (← b.block? node.id).toList ++ (← a.blocksOf after)) := by
  have hidle := h.idle
  rw [h.order, List.mem_append, not_or] at hidle
  constructor
  · rw [← blocksOf_append, ← h.order]
    rfl
  · rw [h.blocksOf_eq hrenames fun id hid heq => hidle.1 (heq ▸ hid),
      h.blocksOf_eq hrenames fun id hid heq => hidle.2 (heq ▸ hid)]
    calc b.blocks
        _ = b.blocksOf (before ++ node.id :: after) := by
          rw [← h.order']
          rfl
        _ = _ := by
          rw [blocksOf_append, blocksOf_cons]
          simp only [bind_assoc, pure_bind, List.append_assoc]

/-! ### The final color -/

/-- Both scenes have the same sinks. -/
lemma sinks_eq : b.sinks = a.sinks := by
  obtain ⟨left, right, hnodes, hnodes'⟩ := h.nodes
  unfold sinks
  rw [hnodes, hnodes', ← h.settings, ← h.catalog, List.filter_append,
    List.filter_cons_of_neg (by simp [h.notSink]), ← List.filter_append]

lemma ne_of_mem_sinks {id : String} (hid : id ∈ a.sinks) : id ≠ node.id := by
  obtain ⟨other, hother, rfl⟩ := List.mem_map.mp hid
  exact fun heq => h.newId (heq ▸ List.mem_map_of_mem (List.mem_of_mem_filter hother))

/-- The same of two nodes runs later. -/
lemma place_lt_place_iff {id id' : String} (hid : id ≠ node.id) (hid' : id' ≠ node.id) :
    b.place id < b.place id' ↔ a.place id < a.place id' := by
  have hmoved := strictMono_movedPlace before.length
  unfold place
  rw [h.position?_eq hid, h.position?_eq hid']
  cases a.position? id with
  | none =>
    cases a.position? id' with
    | none => simp
    | some j =>
      simp only [Option.map_none, Option.map_some]
      omega
  | some i =>
    cases a.position? id' with
    | none =>
      simp only [Option.map_none, Option.map_some]
      omega
    | some j => simp [hmoved.lt_iff_lt]

/-- The same of several nodes runs last. -/
lemma latest_eq {first : String} {others : List String} (hfirst : first ≠ node.id)
    (hothers : ∀ id ∈ others, id ≠ node.id) : b.latest first others = a.latest first others := by
  induction others generalizing first with
  | nil => rfl
  | cons id others ih =>
    have hid := hothers id List.mem_cons_self
    have hrest : ∀ id ∈ others, id ≠ node.id := fun id hid =>
      hothers id (List.mem_cons_of_mem _ hid)
    rw [latest_cons, latest_cons]
    simp only [h.place_lt_place_iff hfirst hid]
    split
    · exact ih hid hrest
    · exact ih hfirst hrest

/-- The same node marks the final color. -/
lemma sink?_eq : b.sink? = a.sink? := by
  have hsources : b.graph.sources = a.graph.sources := by
    unfold Graph.sources
    rw [h.wires]
  have hsinks : ∀ id ∈ a.sinks, id ≠ node.id := fun id => h.ne_of_mem_sinks
  unfold sink?
  rw [h.sinks_eq, hsources]
  split
  · rfl
  · rfl
  · next first others _ heq =>
    rw [heq, List.forall_mem_cons] at hsinks
    rw [h.latest_eq hsinks.1 hsinks.2]

/-- With a sink, both scenes have the same final color. -/
lemma finalColor_eq (hsinks : a.sinks ≠ []) : b.finalColor = a.finalColor := by
  unfold finalColor
  rw [h.sink?_eq]
  cases hsink : a.sink? with
  | none => exact absurd (sinks_eq_nil_of_sink? hsink) hsinks
  | some sink =>
    dsimp only
    rw [h.agreesOn.sinkColor_eq (h.ne_of_mem_sinks (mem_sinks_of_sink? hsink))]

end AddsNode

/-- A node that nothing is wired to leaves all other nodes undisturbed. -/
theorem undisturbed_of_addsNode {a b : Scene} {node : Node} {before after : List String}
    (h : a.AddsNode b node before after) : a.Undisturbed b node.id before after where
  plan := h.sameHelpers.plan_eq.symm
  helpers := by
    intro renames
    exact ((h.withRenames renames renames).sameHelpers.helpers_eq fun _ => rfl).symm
  blocks := by
    intro renames blocks hblocks
    obtain ⟨hold, hnew⟩ := (h.withRenames renames renames).blocks_eq rfl
    rw [hnew, Traced.outcome_bind] at hblocks
    obtain ⟨first, hfirst, hblocks⟩ := bind_eq_ok_iff.mp hblocks
    rw [Traced.outcome_bind] at hblocks
    obtain ⟨own, hown, hblocks⟩ := bind_eq_ok_iff.mp hblocks
    rw [Traced.outcome_bind] at hblocks
    obtain ⟨last, hlast, hblocks⟩ := bind_eq_ok_iff.mp hblocks
    cases hblocks
    refine ⟨first, own, last, hfirst, hown, hlast, ?_, rfl⟩
    rw [hold, Traced.outcome_bind, hfirst, ok_bind, Traced.outcome_bind, hlast]
    rfl
  made := by
    intro renames blocks own hblocks hown
    obtain ⟨hold, hnew⟩ := (h.withRenames renames renames).blocks_eq rfl
    rw [hold, Traced.outcome_bind] at hblocks
    obtain ⟨first, hfirst, hblocks⟩ := bind_eq_ok_iff.mp hblocks
    rw [Traced.outcome_bind] at hblocks
    obtain ⟨last, hlast, -⟩ := bind_eq_ok_iff.mp hblocks
    refine ⟨first ++ own.toList ++ last, ?_⟩
    rw [hnew, Traced.outcome_bind, hfirst, ok_bind, Traced.outcome_bind, hown, ok_bind,
      Traced.outcome_bind, hlast]
    rfl
  color := h.finalColor_eq

/-- Wires from two sources to one parameter of a tint, which is shown. -/
def drivenTwice (nodes : List Node) (order : List String) : Scene :=
  let graph : Graph :=
    { nodes
      wires := [⟨"s", "out", "a", .parameter "strength"⟩, ⟨"t", "out", "a", .parameter "strength"⟩,
        ⟨"a", "out", "f", .port "color"⟩] }
  let catalog : Catalog := ⟨Table.ofList
    [("one",
      { id := "one", displayName := "One", category := "Math", inputs := []
        outputs := [⟨"out", .float, none⟩], parameters := Table.empty
        mainCode := "$output.out = 1.0;", functions := none, description := "" }),
     ("tint",
      { id := "tint", displayName := "Tint", category := "Color", inputs := []
        outputs := [⟨"out", .vec3, none⟩]
        parameters := Table.ofList
          [("strength", ⟨.float, .int 1, .null, .null, .null, none, none⟩)]
        mainCode := "$output.out = scale(vec3(1.0));"
        functions := some "vec3 scale(vec3 x) \x7b return x * $param.strength; \x7d"
        description := "" }),
     ("final-output",
      { id := "final-output", displayName := "Output", category := "Output"
        inputs := [⟨"color", .vec3, none⟩], outputs := [], parameters := Table.empty
        mainCode := "", functions := none, description := "" })]⟩
  { graph, catalog, order, uniforms := Table.empty, renames := Table.empty, settings := {}
    variableNames := (Variables.generate graph catalog {}).toOption.getD Table.empty }

/-- The scene with the sources, the tint and the sink alone. -/
def quiet : Scene :=
  drivenTwice
    [⟨"s", "one", Table.empty, Table.empty⟩, ⟨"t", "one", Table.empty, Table.empty⟩,
     ⟨"a", "tint", Table.empty, Table.empty⟩, ⟨"f", "final-output", Table.empty, Table.empty⟩]
    ["s", "t", "a", "f"]

/-- The scene with a node that runs between the two sources. -/
def crowded : Scene :=
  drivenTwice
    [⟨"s", "one", Table.empty, Table.empty⟩, ⟨"t", "one", Table.empty, Table.empty⟩,
     ⟨"a", "tint", Table.empty, Table.empty⟩, ⟨"x", "one", Table.empty, Table.empty⟩,
     ⟨"f", "final-output", Table.empty, Table.empty⟩]
    ["s", "x", "t", "a", "f"]

lemma addsNode_crowded :
    quiet.AddsNode crowded ⟨"x", "one", Table.empty, Table.empty⟩ ["s"] ["t", "a", "f"] where
  ids := by decide
  nodes := ⟨quiet.graph.nodes.take 3, quiet.graph.nodes.drop 3, rfl, rfl⟩
  order := rfl
  order' := rfl
  wires := rfl
  catalog := rfl
  settings := rfl
  uniforms := rfl
  named := eq_ok_of_isSome_toOption Table.empty (by decide +kernel)
  named' := eq_ok_of_isSome_toOption Table.empty (by decide +kernel)
  newId := by decide
  idle := by decide
  unwired := by decide
  plain := ⟨_, rfl, rfl⟩
  notSink := by decide

/-- The node moves the later source down, which still drives the tint. -/
theorem undisturbed_of_addsNode_crowded :
    quiet.AddsNode crowded ⟨"x", "one", Table.empty, Table.empty⟩ ["s"] ["t", "a", "f"] ∧
      quiet.Undisturbed crowded "x" ["s"] ["t", "a", "f"] ∧ quiet.sinks = ["f"] ∧
      crowded.blocks.outcome.toOption.map (fun blocks => blocks.map Block.node) =
        some ["s", "x", "t", "a"] ∧
      crowded.helpers.outcome.toOption.map (fun helpers => helpers.map fun helper =>
        String.ofList helper.text) =
          some ["vec3 scale(vec3 x) \x7b return x * node_t_out; \x7d"] :=
  ⟨addsNode_crowded, undisturbed_of_addsNode addsNode_crowded, by decide +kernel,
    by decide +kernel, by decide +kernel⟩

end Scene

end ShaderLoom
