import Mathlib.Data.List.Nodup
import ShaderLoom.Scope

/-!
# Looking up nodes and wires

The node that an id stands for, when ids differ, the wires into a node, the scope of a node, and
the place of a node in the order.
-/

namespace ShaderLoom

/-- A wire leads into an input exactly if its target is one. -/
lemma Wire.port?_eq_some_iff {wire : Wire} {port : String} :
    wire.port? = some port ↔ wire.target = .port port := by
  unfold Wire.port?
  split <;> simp_all

namespace Graph

lemma id_of_node? {graph : Graph} {id : String} {node : Node} (h : graph.node? id = some node) :
    node.id = id := by
  simpa using List.find?_some h

lemma mem_of_node? {graph : Graph} {id : String} {node : Node} (h : graph.node? id = some node) :
    node ∈ graph.nodes :=
  List.mem_reverse.mp (List.mem_of_find?_eq_some h)

/-- An id leads to the last node that has it. -/
lemma exists_split_of_node? {graph : Graph} {id : String} {node : Node}
    (h : graph.node? id = some node) :
    ∃ before after, graph.nodes = before ++ node :: after ∧ node.id ∉ after.map Node.id := by
  obtain ⟨hid, later, earlier, hnodes, hlater⟩ := List.find?_eq_some_iff_append.mp h
  refine ⟨earlier.reverse, later.reverse, ?_, fun hmem => ?_⟩
  · rw [← List.reverse_reverse graph.nodes, hnodes]
    simp
  · obtain ⟨other, hother, heq⟩ := List.mem_map.mp hmem
    have hne := hlater other (List.mem_reverse.mp hother)
    simp only [beq_iff_eq] at hid
    simp [heq, hid] at hne

/-- Ids that differ after they are cleaned differ. -/
lemma nodup_ids_of_clean {graph : Graph}
    (h : (graph.nodes.map fun node => Identifier.clean node.id).Nodup) :
    (graph.nodes.map Node.id).Nodup := by
  refine List.Nodup.of_map Identifier.clean ?_
  rw [List.map_map]
  exact h

/-- When ids differ, a node is the one with its id. -/
lemma node?_of_mem {graph : Graph} (hids : (graph.nodes.map Node.id).Nodup) {node : Node}
    (hmem : node ∈ graph.nodes) : graph.node? node.id = some node := by
  cases h : graph.node? node.id with
  | none =>
    have := List.find?_eq_none.mp h node (List.mem_reverse.mpr hmem)
    simp at this
  | some other =>
    have hother : other = node :=
      List.inj_on_of_nodup_map hids (mem_of_node? h) hmem (id_of_node? h)
    rw [hother]

/-- When ids differ, an id leads to the same node in graphs that have the same nodes with it. -/
lemma node?_congr {graph graph' : Graph} (hids : (graph.nodes.map Node.id).Nodup)
    (hids' : (graph'.nodes.map Node.id).Nodup) {id : String}
    (h : ∀ node, node.id = id → (node ∈ graph.nodes ↔ node ∈ graph'.nodes)) :
    graph.node? id = graph'.node? id := by
  cases hnode : graph.node? id with
  | some node =>
    have hid := id_of_node? hnode
    have hmem := (h node hid).mp (mem_of_node? hnode)
    rw [← hid, node?_of_mem hids' hmem]
  | none =>
    cases hnode' : graph'.node? id with
    | none => rfl
    | some node =>
      have hid := id_of_node? hnode'
      have hmem := (h node hid).mpr (mem_of_node? hnode')
      rw [← hid, node?_of_mem hids hmem] at hnode
      cases hnode

/-! ### Wires -/

/-- The wires into a node that have an ending of some kind, each with the ending. -/
lemma mem_filterMap_ending {ending : Wire → Option String} {wires : List Wire} {wire : Wire}
    {id name : String} :
    (wire, name) ∈ wires.filterMap (fun wire =>
        if wire.node = id then (ending wire).map (wire, ·) else none) ↔
      wire ∈ wires ∧ wire.node = id ∧ ending wire = some name := by
  rw [List.mem_filterMap]
  constructor
  · rintro ⟨other, hmem, hother⟩
    split at hother
    · next hnode =>
      obtain ⟨_, hname, hpair⟩ := Option.map_eq_some_iff.mp hother
      cases hpair
      exact ⟨hmem, hnode, hname⟩
    · cases hother
  · rintro ⟨hmem, hnode, hname⟩
    exact ⟨wire, hmem, by rw [if_pos hnode, hname, Option.map_some]⟩

/-- The wires into the inputs of a node. -/
lemma mem_dataWires_iff {graph : Graph} {id port : String} {wire : Wire} :
    (wire, port) ∈ graph.dataWires id ↔
      wire ∈ graph.wires ∧ wire.node = id ∧ wire.target = .port port := by
  rw [← Wire.port?_eq_some_iff]
  exact mem_filterMap_ending

/-- The wires into the parameters of a node. -/
lemma mem_parameterWires_iff {graph : Graph} {id name : String} {wire : Wire} :
    (wire, name) ∈ graph.parameterWires id ↔
      wire ∈ graph.wires ∧ wire.node = id ∧ wire.target = .parameter name := by
  have hending : wire.parameter? = some name ↔ wire.target = .parameter name := by
    unfold Wire.parameter?
    split <;> simp_all
  rw [← hending]
  exact mem_filterMap_ending

end Graph

/-- A scope belongs to the node with its id and to the type that the catalog has for the node. -/
lemma Scope.of?_eq_some_iff {scene : Scene} {id : String} {scope : Scope} :
    Scope.of? scene id = some scope ↔
      ∃ node type, scene.node? id = some node ∧ scene.catalog.find? node.type = some type ∧
        scope = { scene, node, type } := by
  unfold Scope.of?
  constructor
  · intro h
    obtain ⟨node, hnode, h⟩ := Option.bind_eq_some_iff.mp h
    obtain ⟨type, htype, rfl⟩ := Option.map_eq_some_iff.mp h
    exact ⟨node, type, hnode, htype, rfl⟩
  · rintro ⟨node, type, hnode, htype, rfl⟩
    rw [hnode, Option.bind_some, htype, Option.map_some]

/-- The scope of an id belongs to the node of this id. -/
lemma Scope.id_of_of? {scene : Scene} {id : String} {scope : Scope}
    (h : Scope.of? scene id = some scope) : scope.node.id = id := by
  obtain ⟨node, type, hnode, -, rfl⟩ := Scope.of?_eq_some_iff.mp h
  exact Graph.id_of_node? hnode

/-- The type of a node is the one in its scope. -/
lemma Scene.typeOf?_of_of? {scene : Scene} {id : String} {scope : Scope}
    (h : Scope.of? scene id = some scope) : scene.typeOf? id = some scope.type := by
  obtain ⟨node, type, hnode, htype, rfl⟩ := Scope.of?_eq_some_iff.mp h
  exact Option.bind_eq_some_iff.mpr ⟨node, hnode, htype⟩

/-! ### Places in the order -/

/-- A node has no place exactly if it is not in the order. -/
lemma lastPosition_eq_none_iff {id : String} {order : List String} :
    lastPosition id order = none ↔ id ∉ order := by
  induction order with
  | nil => simp [lastPosition]
  | cons first rest ih =>
    unfold lastPosition
    cases h : lastPosition id rest with
    | some i =>
      have hmem : id ∈ rest := by
        by_contra hnot
        rw [ih.mpr hnot] at h
        cases h
      simp [hmem]
    | none => simp [ih.mp h, eq_comm]

/-- The last place in two orders, one after the other. -/
lemma lastPosition_append (id : String) (before after : List String) :
    lastPosition id (before ++ after) =
      ((lastPosition id after).map (before.length + ·)).or (lastPosition id before) := by
  induction before with
  | nil => simp [lastPosition]
  | cons first rest ih =>
    rw [List.cons_append, lastPosition, ih]
    cases lastPosition id after with
    | some i => simp [Nat.add_right_comm]
    | none =>
      simp only [Option.map_none, Option.none_or]
      rfl

/-- The last place of `id` in the order is `i`. -/
def LastAt (order : List String) (id : String) (i : Nat) : Prop :=
  ∃ before after, order = before ++ id :: after ∧ id ∉ after ∧ before.length = i

/-- The search for the last place of a node finds it. -/
lemma lastPosition_eq_some_iff {id : String} {order : List String} {i : Nat} :
    lastPosition id order = some i ↔ LastAt order id i := by
  constructor
  · intro h
    induction order generalizing i with
    | nil => cases h
    | cons first rest ih =>
      unfold lastPosition at h
      cases hrest : lastPosition id rest with
      | some j =>
        rw [hrest] at h
        cases h
        obtain ⟨before, after, rfl, hafter, rfl⟩ := ih hrest
        exact ⟨first :: before, after, rfl, hafter, rfl⟩
      | none =>
        rw [hrest] at h
        dsimp only at h
        split at h
        · next hfirst =>
          cases h
          exact ⟨[], rest, by rw [hfirst]; rfl, lastPosition_eq_none_iff.mp hrest, rfl⟩
        · cases h
  · rintro ⟨before, after, rfl, hafter, rfl⟩
    rw [lastPosition_append, lastPosition, lastPosition_eq_none_iff.mpr hafter]
    simp

/-- Places are within the order. -/
lemma lastPosition_lt_length {id : String} {order : List String} {i : Nat}
    (h : lastPosition id order = some i) : i < order.length := by
  induction order generalizing i with
  | nil => cases h
  | cons first rest ih =>
    rw [List.length_cons]
    unfold lastPosition at h
    split at h
    · next j hj =>
      cases h
      exact Nat.succ_lt_succ (ih hj)
    · split at h
      · cases h
        exact Nat.succ_pos rest.length
      · cases h

/-- In an order without repetitions a node has one place. -/
lemma lastPosition_eq_idxOf {id : String} {order : List String} (horder : order.Nodup)
    (hmem : id ∈ order) : lastPosition id order = some (order.idxOf id) := by
  induction order with
  | nil => cases hmem
  | cons first rest ih =>
    rw [List.nodup_cons] at horder
    unfold lastPosition
    by_cases hfirst : first = id
    · rw [hfirst] at horder
      rw [lastPosition_eq_none_iff.mpr horder.1, hfirst, if_pos rfl, List.idxOf_cons_self]
    · have hrest : id ∈ rest := (List.mem_cons.mp hmem).resolve_left fun h => hfirst h.symm
      rw [ih horder.2 hrest, List.idxOf_cons_ne rest hfirst]

/-- Every node of the graph has its turn. -/
lemma Scene.mem_emissionOrder {scene : Scene} {node : Node} (h : node ∈ scene.graph.nodes) :
    node.id ∈ scene.emissionOrder := by
  unfold Scene.emissionOrder
  by_cases horder : node.id ∈ scene.order
  · exact List.mem_append_left _ horder
  · refine List.mem_append_right _ (List.mem_filter.mpr ⟨List.mem_map_of_mem h, ?_⟩)
    simpa using horder

end ShaderLoom
