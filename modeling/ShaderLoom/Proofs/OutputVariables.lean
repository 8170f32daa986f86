import Mathlib.Data.List.Pairwise
import ShaderLoom.Proofs.Outcomes
import ShaderLoom.Proofs.SceneNodes
import ShaderLoom.Proofs.Tables
import ShaderLoom.Variables

/-!
# What the table of output variables holds

When the ids of nodes differ, the generated table has a variable for an output exactly when a node
of known type exposes the output, and the variable is named after the node and the output.
-/

namespace ShaderLoom

/-- The node, whose type is known, exposes the output. -/
def Graph.Exposes (graph : Graph) (catalog : Catalog) (settings : Settings) (node : Node)
    (type : NodeType) (port : String) : Prop :=
  node ∈ graph.nodes ∧ catalog.find? node.type = some type ∧
    ∃ ports, node.outputNames type settings = .ok ports ∧ port ∈ ports

/-- The variables of the outputs were generated for the scene. -/
def Scene.IsNamed (scene : Scene) : Prop :=
  Variables.generate scene.graph scene.catalog scene.settings = .ok scene.variableNames

namespace Variables

variable {graph : Graph} {catalog : Catalog} {settings : Settings} {table : Variables}

/-- The variable of an output in the table of its node. -/
lemma find?_ofNode (node : Node) (ports : List String) (port : String) :
    (ofNode node ports).find? port =
      if port ∈ ports then some (Identifier.outputVariable node.id port) else none := by
  unfold ofNode
  rw [Table.ofList_eq_insertAll]
  split
  · next hmem =>
    refine Table.find?_insertAll_of_mem ⟨_, List.mem_map_of_mem hmem, rfl⟩ ?_
    intro entry hentry hname
    obtain ⟨other, -, rfl⟩ := List.mem_map.mp hentry
    rw [← hname]
  · next hmem =>
    refine Table.find?_insertAll_of_not_mem fun entry hentry hname => hmem ?_
    obtain ⟨other, hother, rfl⟩ := List.mem_map.mp hentry
    exact hname ▸ hother

/-- All variables of a table. -/
def names (table : Variables) : List String := table.entries.flatMap fun entry => entry.2.values

/-- When no variable occurs twice, a variable belongs to one output of one node. -/
lemma unique_of_nodup_names {table : Variables} (h : table.names.Nodup)
    (node port node' port' name : String) (hlookup : table.lookup node port = some name)
    (hlookup' : table.lookup node' port' = some name) : node = node' ∧ port = port' := by
  have hentry : ∀ {node port : String}, table.lookup node port = some name →
      ∃ ports, (node, ports) ∈ table.entries ∧ (port, name) ∈ ports.entries := by
    intro node port hlookup
    unfold Variables.lookup Variables.ports at hlookup
    cases hfind : table.find? node with
    | none =>
      rw [hfind] at hlookup
      cases hlookup
    | some ports =>
      rw [hfind] at hlookup
      exact ⟨ports, Table.mem_entries_of_find? hfind, Table.mem_entries_of_find? hlookup⟩
  obtain ⟨ports, hnode, hport⟩ := hentry hlookup
  obtain ⟨ports', hnode', hport'⟩ := hentry hlookup'
  obtain ⟨hinner, houter⟩ := List.nodup_flatMap.mp h
  have hname : name ∈ ports.values := List.mem_map.mpr ⟨_, hport, rfl⟩
  have hname' : name ∈ ports'.values := List.mem_map.mpr ⟨_, hport', rfl⟩
  have hsymm : Std.Symm (Function.onFun List.Disjoint
      fun entry : String × Table String => entry.2.values) :=
    ⟨fun _ _ hdisjoint _ hleft hright => hdisjoint hright hleft⟩
  have hsame : (node, ports) = (node', ports') := by
    by_contra hne
    exact houter.forall hnode hnode' hne hname hname'
  cases hsame
  have hpair := List.inj_on_of_nodup_map (hinner _ hnode) hport hport' rfl
  cases hpair
  exact ⟨rfl, rfl⟩

/-- One step of the generation of the table. -/
def addNode (catalog : Catalog) (settings : Settings) (table : Variables) (node : Node) :
    Except Fault Variables :=
  match catalog.find? node.type with
  | none => .ok table
  | some type => do
    return table.insert node.id (ofNode node (← node.outputNames type settings))

/-- Variables are named node by node. -/
lemma generate_eq (graph : Graph) (catalog : Catalog) (settings : Settings) :
    generate graph catalog settings = graph.nodes.foldlM (addNode catalog settings) Table.empty :=
  rfl

/-- A step puts in the variables of a node of known type, whose outputs it has to find. -/
lemma addNode_eq_ok_iff {table' : Variables} {node : Node} :
    addNode catalog settings table node = .ok table' ↔
      (catalog.find? node.type = none ∧ table' = table) ∨
        ∃ type ports, catalog.find? node.type = some type ∧
          node.outputNames type settings = .ok ports ∧
          table' = table.insert node.id (ofNode node ports) := by
  unfold addNode
  cases hfind : catalog.find? node.type with
  | none => simp [eq_comm]
  | some type =>
    simp only [reduceCtorEq, false_and, false_or]
    constructor
    · intro h
      obtain ⟨ports, hports, heq⟩ := bind_eq_ok_iff.mp h
      cases heq
      exact ⟨type, ports, rfl, hports, rfl⟩
    · rintro ⟨type', ports, heq, hports, rfl⟩
      cases heq
      rw [hports]
      rfl

/-- The entries of other ids do not change with the nodes. -/
lemma find?_foldlM_addNode_of_not_mem {nodes : List Node} {start : Variables}
    (h : nodes.foldlM (addNode catalog settings) start = .ok table) {id : String}
    (hid : id ∉ nodes.map Node.id) : table.find? id = start.find? id := by
  induction nodes generalizing start with
  | nil =>
    cases h
    rfl
  | cons node nodes ih =>
    rw [List.map_cons, List.mem_cons, not_or] at hid
    obtain ⟨middle, hstep, hrest⟩ := bind_eq_ok_iff.mp h
    rw [ih hrest hid.2]
    rcases addNode_eq_ok_iff.mp hstep with ⟨-, rfl⟩ | ⟨type, ports, -, -, rfl⟩
    · rfl
    · rw [Table.find?_insert, if_neg (Ne.symm hid.1)]

/-- The entry of the last node with an id: its variables, if its type is known. -/
lemma find?_of_last {before after : List Node} {node : Node} {start : Variables}
    (h : (before ++ node :: after).foldlM (addNode catalog settings) start = .ok table)
    (hafter : node.id ∉ after.map Node.id) :
    ∃ middle, before.foldlM (addNode catalog settings) start = .ok middle ∧
      ((catalog.find? node.type = none ∧ table.find? node.id = middle.find? node.id) ∨
        ∃ type ports, catalog.find? node.type = some type ∧
          node.outputNames type settings = .ok ports ∧
          table.find? node.id = some (ofNode node ports)) := by
  rw [List.foldlM_append] at h
  obtain ⟨middle, hbefore, h⟩ := bind_eq_ok_iff.mp h
  obtain ⟨next, hstep, hrest⟩ := bind_eq_ok_iff.mp h
  have hkeep := find?_foldlM_addNode_of_not_mem hrest hafter
  refine ⟨middle, hbefore, ?_⟩
  rcases addNode_eq_ok_iff.mp hstep with ⟨hnone, rfl⟩ | ⟨type, ports, htype, hports, rfl⟩
  · exact Or.inl ⟨hnone, hkeep⟩
  · refine Or.inr ⟨type, ports, htype, hports, ?_⟩
    rw [hkeep, Table.find?_insert, if_pos rfl]

/-- The last node with an id gives the id its variables, if its type is known. -/
lemma ports_of_node? (hgenerate : generate graph catalog settings = .ok table) {id : String}
    {node : Node} (hnode : graph.node? id = some node) {type : NodeType}
    (htype : catalog.find? node.type = some type) :
    ∃ ports, node.outputNames type settings = .ok ports ∧ table.ports id = ofNode node ports := by
  obtain ⟨before, after, hnodes, hafter⟩ := Graph.exists_split_of_node? hnode
  obtain rfl := Graph.id_of_node? hnode
  rw [generate_eq, hnodes] at hgenerate
  obtain ⟨-, -, ⟨hnone, -⟩ | ⟨type', ports, htype', hports, hfind⟩⟩ :=
    find?_of_last hgenerate hafter
  · rw [htype] at hnone
    cases hnone
  · rw [htype] at htype'
    cases htype'
    refine ⟨ports, hports, ?_⟩
    unfold Variables.ports
    rw [hfind]
    rfl

/-- The variables of an id are those of the outputs that its last node exposes. -/
lemma exists_lookup_of_node? (hgenerate : generate graph catalog settings = .ok table)
    {id : String} {node : Node} (hnode : graph.node? id = some node) {type : NodeType}
    (htype : catalog.find? node.type = some type) :
    ∃ ports, node.outputNames type settings = .ok ports ∧ ∀ port, table.lookup id port =
      if port ∈ ports then some (Identifier.outputVariable id port) else none := by
  obtain ⟨ports, hports, htable⟩ := ports_of_node? hgenerate hnode htype
  refine ⟨ports, hports, fun port => ?_⟩
  unfold lookup
  rw [htable, find?_ofNode, Graph.id_of_node? hnode]

/-- Every variable belongs to an output that a node exposes, and is named after the node and the
output, also where nodes share an id. -/
lemma exists_exposes_of_lookup (hgenerate : generate graph catalog settings = .ok table)
    {id port name : String} (h : table.lookup id port = some name) :
    ∃ node type, graph.Exposes catalog settings node type port ∧ node.id = id ∧
      name = Identifier.outputVariable id port := by
  have hnamed : ∀ id port name, table.lookup id port = some name →
      ∃ node type, graph.Exposes catalog settings node type port ∧ node.id = id ∧
        name = Identifier.outputVariable id port := by
    rw [generate_eq] at hgenerate
    refine holds_of_foldlM_eq_ok (P := fun table : Variables => ∀ id port name,
      table.lookup id port = some name →
        ∃ node type, graph.Exposes catalog settings node type port ∧ node.id = id ∧
          name = Identifier.outputVariable id port) ?_ ?_ hgenerate
    · intro table table' node hnode hnamed hstep id port name hlookup
      rcases addNode_eq_ok_iff.mp hstep with ⟨-, rfl⟩ | ⟨type, ports, htype, hports, rfl⟩
      · exact hnamed id port name hlookup
      · unfold lookup Variables.ports at hlookup
        rw [Table.find?_insert] at hlookup
        split at hlookup
        · next hid =>
          rw [Option.getD_some, find?_ofNode] at hlookup
          split at hlookup
          · next hport =>
            cases hlookup
            exact ⟨node, type, ⟨hnode, htype, ports, hports, hport⟩, hid, by rw [hid]⟩
          · cases hlookup
        · exact hnamed id port name hlookup
    · intro id port name hlookup
      cases hlookup
  exact hnamed id port name h

/-- The variable of an output is named after its node and port. -/
lemma eq_of_lookup (hgenerate : generate graph catalog settings = .ok table)
    {id port name : String} (h : table.lookup id port = some name) :
    name = Identifier.outputVariable id port := by
  obtain ⟨-, -, -, -, hname⟩ := exists_exposes_of_lookup hgenerate h
  exact hname

section Generated

variable (hids : (graph.nodes.map Node.id).Nodup)
  (hgenerate : generate graph catalog settings = .ok table)

include hids hgenerate

/-- A node of known type has its outputs, and its variables are those of its outputs. -/
lemma ports_of_mem {node : Node} (hnode : node ∈ graph.nodes) {type : NodeType}
    (htype : catalog.find? node.type = some type) :
    ∃ ports, node.outputNames type settings = .ok ports ∧
      table.ports node.id = ofNode node ports :=
  ports_of_node? hgenerate (Graph.node?_of_mem hids hnode) htype

/-- A node of unknown type has no variables. -/
lemma ports_of_unknown {node : Node} (hnode : node ∈ graph.nodes)
    (htype : catalog.find? node.type = none) : table.ports node.id = Table.empty := by
  obtain ⟨before, after, hnodes⟩ := List.append_of_mem hnode
  rw [hnodes, List.map_append, List.map_cons, List.nodup_middle, List.nodup_cons,
    List.mem_append, not_or] at hids
  rw [generate_eq, hnodes] at hgenerate
  obtain ⟨middle, hbefore, ⟨-, hfind⟩ | ⟨type, ports, htype', -, -⟩⟩ :=
    find?_of_last hgenerate hids.1.2
  · unfold Variables.ports
    rw [hfind, find?_foldlM_addNode_of_not_mem hbefore hids.1.1]
    rfl
  · rw [htype] at htype'
    cases htype'

omit hids in
/-- An id without a node has no variables. -/
lemma ports_of_not_mem {id : String} (hid : id ∉ graph.nodes.map Node.id) :
    table.ports id = Table.empty := by
  unfold Variables.ports
  rw [find?_foldlM_addNode_of_not_mem hgenerate hid]
  rfl

/-- An id has the same variables in graphs that have the same nodes with it. -/
lemma ports_congr {graph' : Graph} {table' : Variables}
    (hids' : (graph'.nodes.map Node.id).Nodup)
    (hgenerate' : generate graph' catalog settings = .ok table') {id : String}
    (h : ∀ node, node.id = id → (node ∈ graph.nodes ↔ node ∈ graph'.nodes)) :
    table.ports id = table'.ports id := by
  by_cases hid : id ∈ graph.nodes.map Node.id
  · obtain ⟨node, hnode, rfl⟩ := List.mem_map.mp hid
    have hnode' := (h node rfl).mp hnode
    cases htype : catalog.find? node.type with
    | none =>
      rw [ports_of_unknown hids hgenerate hnode htype,
        ports_of_unknown hids' hgenerate' hnode' htype]
    | some type =>
      obtain ⟨ports, hports, htable⟩ := ports_of_mem hids hgenerate hnode htype
      obtain ⟨ports', hports', htable'⟩ := ports_of_mem hids' hgenerate' hnode' htype
      rw [hports] at hports'
      cases hports'
      rw [htable, htable']
  · have hid' : id ∉ graph'.nodes.map Node.id := by
      intro hmem
      obtain ⟨node, hnode, rfl⟩ := List.mem_map.mp hmem
      exact hid (List.mem_map_of_mem ((h node rfl).mpr hnode))
    rw [ports_of_not_mem hgenerate hid, ports_of_not_mem hgenerate' hid']

/-- An output has a variable exactly when a node of known type exposes it. -/
theorem lookup_eq_some_iff {id port name : String} :
    table.lookup id port = some name ↔
      ∃ node type, graph.Exposes catalog settings node type port ∧ node.id = id ∧
        name = Identifier.outputVariable id port := by
  constructor
  · exact exists_exposes_of_lookup hgenerate
  · rintro ⟨node, type, ⟨hnode, htype, ports, hports, hport⟩, rfl, rfl⟩
    obtain ⟨ports', hports', htable⟩ := ports_of_mem hids hgenerate hnode htype
    rw [hports] at hports'
    cases hports'
    unfold Variables.lookup
    rw [htable, find?_ofNode, if_pos hport]

end Generated

end Variables

end ShaderLoom
