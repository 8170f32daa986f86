import ShaderLoom.Bands
import ShaderLoom.Proofs.ChosenWires

/-!
# Nodes under other ids

The ids of nodes are looked up, compared and cleaned, and nothing else: they are written out in
remarks and in the comments of blocks only.  The title of a node type is written in the comments
alone.  So the code of a node is the same when every node is given another id, as long as different
ids stay different and cleaned ids stay the same, and when node types are given other titles.

Remarks and faults name the ids, so what two computations have in common is the value that they end
with, where there is one.
-/

namespace ShaderLoom

/-! ### Values of traced computations -/

namespace Traced

variable {α β γ δ : Type}

/-- The value that a computation ends with, unless it fails. -/
def value? (traced : Traced α) : Option α := traced.outcome.toOption

@[simp] lemma value?_pure (a : α) : (pure a : Traced α).value? = some a := rfl

/-- One computation after the other ends with a value when both do. -/
@[simp] lemma value?_bind (first : Traced α) (next : α → Traced β) :
    (first >>= next).value? = first.value?.bind fun a => (next a).value? := by
  unfold value?
  rw [outcome_bind]
  cases first.outcome <;> rfl

@[simp] lemma value?_remark (message : String) : (remark message).value? = some () := rfl

@[simp] lemma value?_remarkIf (condition : Bool) (message : String) :
    (remarkIf condition message).value? = some () := rfl

/-- A remark does not change the value of what follows it. -/
lemma value?_remark_bind (message : String) (next : Unit → Traced α) :
    (remark message >>= next).value? = (next ()).value? := by
  rw [value?_bind, value?_remark, Option.bind_some]

@[simp] lemma value?_liftM (result : Except Fault α) :
    (liftM result : Traced α).value? = result.toOption := rfl

/-- A computation ends with a value exactly when it succeeds. -/
lemma value?_eq_some_iff {traced : Traced α} {a : α} :
    traced.value? = some a ↔ traced.outcome = .ok a := by
  unfold value?
  cases traced.outcome with
  | ok b => simp [Except.toOption]
  | error fault => simp [Except.toOption]

/-- A fold over the images of items ends with the image of a fold over the items when its steps
do. -/
lemma value?_foldlM_map {f : β → α → Traced β} {g : δ → γ → Traced δ} {image : α → γ}
    {view : β → δ} {items : List α}
    (h : ∀ b, ∀ item ∈ items, (g (view b) (image item)).value? = (f b item).value?.map view)
    (start : β) :
    ((items.map image).foldlM g (view start)).value? =
      (items.foldlM f start).value?.map view := by
  induction items generalizing start with
  | nil => rfl
  | cons item rest ih =>
    rw [List.map_cons, List.foldlM_cons, List.foldlM_cons, value?_bind, value?_bind,
      h start item List.mem_cons_self]
    have hrest := ih fun b other hother => h b other (List.mem_cons_of_mem item hother)
    cases (f start item).value? with
    | none => rfl
    | some b => exact hrest b

/-- Folds over items and over their images end alike when their steps do. -/
lemma value?_foldlM_image {f : β → α → Traced β} {g : β → γ → Traced β} {image : α → γ}
    {items : List α} (h : ∀ b, ∀ item ∈ items, (g b (image item)).value? = (f b item).value?)
    (start : β) :
    ((items.map image).foldlM g start).value? = (items.foldlM f start).value? := by
  have hview : ∀ b, ∀ item ∈ items,
      (g (id b) (image item)).value? = (f b item).value?.map id := by
    intro b item hitem
    rw [Option.map_id_apply]
    exact h b item hitem
  have hfold := value?_foldlM_map hview start
  rwa [Option.map_id_apply] at hfold

/-- Lists of computations end with the images of their values when each of them does. -/
lemma value?_mapM_map {f : α → Traced β} {g : γ → Traced δ} {image : α → γ} {view : β → δ}
    {items : List α} (h : ∀ item ∈ items, (g (image item)).value? = (f item).value?.map view) :
    ((items.map image).mapM g).value? = (items.mapM f).value?.map (List.map view) := by
  induction items with
  | nil => rfl
  | cons item rest ih =>
    have hrest := ih fun other hother => h other (List.mem_cons_of_mem item hother)
    rw [List.map_cons, List.mapM_cons, List.mapM_cons, value?_bind, value?_bind,
      h item List.mem_cons_self]
    simp only [value?_bind, hrest, value?_pure]
    cases (f item).value? with
    | none => rfl
    | some b => cases (rest.mapM f).value? <;> rfl

end Traced

/-! ### Other ids and other titles -/

/-- Other ids for nodes, which are as different as the old ones and look the same when they are
cleaned. -/
structure Relabeling where
  label : String → String
  injective : Function.Injective label
  clean_label : ∀ id, Identifier.clean (label id) = Identifier.clean id

namespace Relabeling

variable (ρ : Relabeling)

/-- The node under its new id. -/
def onNode (node : Node) : Node := { node with id := ρ.label node.id }

/-- The wire between nodes under their new ids. -/
def onWire (wire : Wire) : Wire :=
  { wire with source := ρ.label wire.source, node := ρ.label wire.node }

/-- The graph under new ids. -/
def onGraph (graph : Graph) : Graph := ⟨graph.nodes.map ρ.onNode, graph.wires.map ρ.onWire⟩

/-- A table by ids as a table by new ids. -/
def onTable {α : Type} (table : Table α) : Table α :=
  ⟨table.entries.map fun entry => (ρ.label entry.1, entry.2)⟩

/-- The variable of an output depends on the cleaned id only. -/
lemma outputVariable_label (id port : String) :
    Identifier.outputVariable (ρ.label id) port = Identifier.outputVariable id port := by
  unfold Identifier.outputVariable
  rw [ρ.clean_label]

/-- The name of an array constant depends on the cleaned id only. -/
lemma arrayConstant_label (id name : String) :
    Identifier.arrayConstant (ρ.label id) name = Identifier.arrayConstant id name := by
  unfold Identifier.arrayConstant
  rw [ρ.clean_label]

/-- The name of a uniform depends on the cleaned id only. -/
lemma uniform_label (id name : String) :
    Identifier.uniform (ρ.label id) name = Identifier.uniform id name := by
  unfold Identifier.uniform
  rw [ρ.clean_label]

/-- A node is found under its new id. -/
lemma node?_onGraph (graph : Graph) (id : String) :
    (ρ.onGraph graph).node? (ρ.label id) = (graph.node? id).map ρ.onNode := by
  unfold Graph.node?
  rw [onGraph, ← List.map_reverse, List.find?_map]
  refine congrArg (fun p => Option.map ρ.onNode (graph.nodes.reverse.find? p))
    (funext fun node => ?_)
  rw [Bool.eq_iff_iff]
  simp [onNode, ρ.injective.eq_iff]

/-- The wires that end in a node under its new id are the old ones under their new ids. -/
lemma filterMap_onGraph (graph : Graph) (id : String) {ending : Wire → Option String}
    (hending : ∀ wire, ending (ρ.onWire wire) = ending wire) :
    (ρ.onGraph graph).wires.filterMap
        (fun wire => if wire.node = ρ.label id then (ending wire).map (wire, ·) else none) =
      (graph.wires.filterMap
        fun wire => if wire.node = id then (ending wire).map (wire, ·) else none).map
        fun entry => (ρ.onWire entry.1, entry.2) := by
  rw [onGraph, List.filterMap_map, List.map_filterMap]
  refine List.filterMap_congr fun wire _ => ?_
  have hnode : (ρ.onWire wire).node = ρ.label id ↔ wire.node = id := ρ.injective.eq_iff
  by_cases h : wire.node = id
  · rw [Function.comp_apply, if_pos (hnode.mpr h), if_pos h, Option.map_map, hending]
    rfl
  · rw [Function.comp_apply, if_neg (mt hnode.mp h), if_neg h]
    rfl

lemma dataWires_onGraph (graph : Graph) (id : String) :
    (ρ.onGraph graph).dataWires (ρ.label id) =
      (graph.dataWires id).map fun entry => (ρ.onWire entry.1, entry.2) :=
  ρ.filterMap_onGraph graph id fun _ => rfl

lemma parameterWires_onGraph (graph : Graph) (id : String) :
    (ρ.onGraph graph).parameterWires (ρ.label id) =
      (graph.parameterWires id).map fun entry => (ρ.onWire entry.1, entry.2) :=
  ρ.filterMap_onGraph graph id fun _ => rfl

/-- A node keeps its last place in the order. -/
lemma lastPosition_map (id : String) (order : List String) :
    lastPosition (ρ.label id) (order.map ρ.label) = lastPosition id order := by
  induction order with
  | nil => rfl
  | cons first rest ih =>
    rw [List.map_cons, lastPosition, lastPosition, ih]
    simp only [ρ.injective.eq_iff]

/-- Under its new id a node has the entry that it had. -/
lemma find?_onTable {α : Type} (table : Table α) (id : String) :
    (ρ.onTable table).find? (ρ.label id) = table.find? id := by
  unfold Table.find? onTable
  dsimp only
  induction table.entries with
  | nil => rfl
  | cons entry rest ih =>
    rw [List.map_cons, Table.lookup, Table.lookup, ih]
    simp only [ρ.injective.eq_iff]

/-- A new entry is made under the new id. -/
lemma onTable_insert {α : Type} (table : Table α) (id : String) (value : α) :
    ρ.onTable (table.insert id value) = (ρ.onTable table).insert (ρ.label id) value := by
  unfold Table.insert onTable
  dsimp only
  congr 1
  induction table.entries with
  | nil => rfl
  | cons entry rest ih =>
    rw [List.map_cons, Table.put, Table.put]
    simp only [ρ.injective.eq_iff]
    split
    · rfl
    · rw [List.map_cons, ih]

end Relabeling

/-- The node type under another title. -/
def NodeType.titled (type : NodeType) (title : String) : NodeType :=
  { type with displayName := title }

/-- The catalogs have the same node types, but for their titles. -/
def Catalog.SameButTitles (a b : Catalog) : Prop :=
  ∀ id, (b.find? id).map (·.titled "") = (a.find? id).map (·.titled "")

/-- Either both catalogs lack a node type, or they have it under one title each. -/
lemma Catalog.SameButTitles.find?_cases {a b : Catalog} (h : a.SameButTitles b) (id : String) :
    (a.find? id = none ∧ b.find? id = none) ∨
      ∃ type title, a.find? id = some type ∧ b.find? id = some (type.titled title) := by
  have hid := h id
  cases ha : a.find? id with
  | none =>
    rw [ha, Option.map_none, Option.map_eq_none_iff] at hid
    exact Or.inl ⟨rfl, hid⟩
  | some type =>
    rw [ha, Option.map_some] at hid
    obtain ⟨other, hother, heq⟩ := Option.map_eq_some_iff.mp hid
    refine Or.inr ⟨type, other.displayName, rfl, ?_⟩
    have htype : type.titled other.displayName = (type.titled "").titled other.displayName := rfl
    rw [hother, htype, ← heq]
    rfl

/-- The names under which nodes of a type can have uniforms. -/
def NodeType.Places (type : NodeType) (name : String) : Prop :=
  name ∈ type.outputs.map Port.name ∨ name ∈ type.parameters.keys ∨
    ∃ count, name ∈ analyzerPorts count

/-- The scenes differ in the ids of nodes and in the titles of node types only. -/
structure Scene.Relabels (ρ : Relabeling) (a b : Scene) : Prop where
  graph : b.graph = ρ.onGraph a.graph
  catalog : a.catalog.SameButTitles b.catalog
  ports : ∀ id, b.variableNames.ports (ρ.label id) = a.variableNames.ports id
  order : b.order = a.order.map ρ.label
  uniform? : ∀ {typeId type}, a.catalog.find? typeId = some type → ∀ {name}, type.Places name →
    ∀ id, b.uniform? (ρ.label id) name = a.uniform? id name
  settings : b.settings = a.settings

namespace Scene.Relabels

variable {ρ : Relabeling} {a b : Scene} (h : a.Relabels ρ b)

include h

/-- The scene finds a node under its new id. -/
lemma node? (id : String) : b.node? (ρ.label id) = (a.node? id).map ρ.onNode := by
  unfold Scene.node?
  rw [h.graph, ρ.node?_onGraph]

/-- The variables of a node are found under its new id. -/
lemma lookup (id port : String) :
    b.variableNames.lookup (ρ.label id) port = a.variableNames.lookup id port := by
  unfold Variables.lookup
  rw [h.ports]

lemma position? (id : String) : b.position? (ρ.label id) = a.position? id := by
  unfold Scene.position?
  rw [h.order, ρ.lastPosition_map]

/-- A node keeps its type up to the title, or has none before and after. -/
lemma typeOf?_cases (id : String) :
    (a.typeOf? id = none ∧ b.typeOf? (ρ.label id) = none) ∨
      ∃ type title, a.typeOf? id = some type ∧
        b.typeOf? (ρ.label id) = some (type.titled title) := by
  unfold Scene.typeOf?
  rw [h.node?]
  cases a.node? id with
  | none => exact Or.inl ⟨rfl, rfl⟩
  | some node => exact h.catalog.find?_cases node.type

/-- An output keeps the type that wires carry it with. -/
lemma sourceType? (id port : String) (type : NodeType) (title : String) :
    Scope.sourceType? b (ρ.label id) (type.titled title) port =
      Scope.sourceType? a id type port := by
  unfold Scope.sourceType?
  rw [h.lookup, h.settings]
  rfl

end Scene.Relabels

/-- The scopes are those of one node under two ids, in scenes that differ like this. -/
structure Scope.Relabels (ρ : Relabeling) (scope other : Scope) : Prop where
  scene : scope.scene.Relabels ρ other.scene
  node : other.node = ρ.onNode scope.node
  type : ∃ title, other.type = scope.type.titled title
  declared : ∃ typeId, scope.scene.catalog.find? typeId = some scope.type

namespace Scope.Relabels

variable {ρ : Relabeling} {scope other : Scope} (h : scope.Relabels ρ other)

include h

lemma id : other.node.id = ρ.label scope.node.id := by
  rw [h.node]
  rfl

/-- Both scopes name the outputs of their nodes alike. -/
lemma lookup (port : String) : other.scene.variableNames.lookup other.node.id port =
    scope.scene.variableNames.lookup scope.node.id port := by
  rw [h.id, h.scene.lookup]

/-- Both scopes have the same uniforms for what their type can place. -/
lemma uniform? {name : String} (hname : scope.type.Places name) :
    other.scene.uniform? other.node.id name = scope.scene.uniform? scope.node.id name := by
  obtain ⟨typeId, htype⟩ := h.declared
  rw [h.id, h.scene.uniform? htype hname]

lemma input? (port : String) : other.type.input? port = scope.type.input? port := by
  obtain ⟨title, htype⟩ := h.type
  rw [htype]
  rfl

lemma parameter? (name : String) : other.type.parameter? name = scope.type.parameter? name := by
  obtain ⟨title, htype⟩ := h.type
  rw [htype]
  rfl

/-! ### Wires -/

omit h in
/-- The node that a conversion is made for shows in its fault only. -/
lemma toOption_convert (node node' : Option String) (expr : String) (source target : PortType) :
    (Conversion.convert node expr source target).toOption =
      (Conversion.convert node' expr source target).toOption := by
  cases source <;> cases target <;> rfl

/-- A wire into an input adds the same to both scopes. -/
lemma value?_addInput (resolved : Table String) (wire : Wire) (port : String) :
    (other.addInput resolved (ρ.onWire wire) port).value? =
      (scope.addInput resolved wire port).value? := by
  unfold addInput
  dsimp only [Relabeling.onWire]
  rw [h.input?]
  -- where the wire is ignored, the two remarks differ in the ids that they name
  cases scope.type.input? port with
  | none => simp only [Traced.value?_remark_bind]
  | some input =>
    dsimp only
    rcases h.scene.typeOf?_cases wire.source with ⟨ha, hb⟩ | ⟨type, title, ha, hb⟩
    · simp only [ha, hb, Traced.value?_remark_bind]
    rw [ha, hb]
    dsimp only
    rw [h.scene.sourceType?, h.scene.lookup]
    cases sourceType? scope.scene wire.source type wire.sourcePort with
    | none => simp only [Traced.value?_remark_bind]
    | some carried =>
      cases scope.scene.variableNames.lookup wire.source wire.sourcePort with
      | none => simp only [Traced.value?_remark_bind]
      | some name =>
        simp only [Traced.value?_bind, Traced.value?_remarkIf, Traced.value?_liftM,
          toOption_convert (some other.node.id) (some scope.node.id)]

lemma isSelfSufficient : other.isSelfSufficient = scope.isSelfSufficient := by
  obtain ⟨title, htype⟩ := h.type
  unfold Scope.isSelfSufficient
  rw [htype, h.scene.settings]
  rfl

/-- Both scopes read the same inputs. -/
lemma value?_inputs : other.inputs.value? = scope.inputs.value? := by
  obtain ⟨title, htype⟩ := h.type
  have hinputs : other.type.inputs = scope.type.inputs := by
    rw [htype]
    rfl
  unfold inputs
  rw [Traced.value?_bind, Traced.value?_bind, h.id, h.scene.graph, ρ.dataWires_onGraph,
    Traced.value?_foldlM_image fun resolved entry _ => h.value?_addInput resolved entry.1 entry.2,
    h.isSelfSufficient, hinputs]

lemma deadline : other.deadline = scope.deadline := by
  unfold Scope.deadline
  rw [h.id, h.scene.position?, h.scene.order, List.length_map]

omit h in
/-- The node that a value is converted for shows in the fault only, for parameters as well. -/
lemma toOption_toParameter (node node' : Option String) (expr : String) (source : PortType) :
    (Conversion.toParameter node expr source).toOption =
      (Conversion.toParameter node' expr source).toOption := by
  cases source <;> rfl

/-- A wire into a parameter is taken by both scopes or by neither. -/
lemma value?_addParameterWire (chosen : Table (Nat × String)) (wire : Wire) (name : String) :
    (other.addParameterWire chosen (ρ.onWire wire) name).value? =
      (scope.addParameterWire chosen wire name).value? := by
  have hvariable : (other.sourceVariable (ρ.onWire wire)).value? =
      (scope.sourceVariable wire).value? := by
    have heq : other.variableOf (ρ.onWire wire) = scope.variableOf wire := by
      unfold variableOf
      dsimp only [Relabeling.onWire]
      rw [h.scene.lookup, ρ.outputVariable_label]
    rw [Traced.value?, Traced.value?, outcome_sourceVariable, outcome_sourceVariable, heq]
  unfold addParameterWire
  dsimp only [Relabeling.onWire] at hvariable ⊢
  rw [h.parameter?]
  split
  · simp only [Traced.value?_remark_bind]
  rcases h.scene.typeOf?_cases wire.source with ⟨ha, hb⟩ | ⟨type, title, ha, hb⟩
  · simp only [ha, hb, Traced.value?_remark_bind]
  rw [ha, hb]
  dsimp only
  rw [h.scene.sourceType?, h.scene.position?, h.deadline]
  cases sourceType? scope.scene wire.source type wire.sourcePort with
  | none => simp only [Traced.value?_remark_bind]
  | some carried =>
    cases scope.scene.position? wire.source with
    | none => rfl
    | some position =>
      dsimp only
      split
      · rfl
      split
      · rfl
      simp only [Traced.value?_bind, hvariable, Traced.value?_liftM,
        toOption_toParameter (some other.node.id) (some scope.node.id)]

/-- The parameters of both scopes are driven alike. -/
lemma value?_parameterWires : other.parameterWires.value? = scope.parameterWires.value? := by
  unfold parameterWires
  rw [Traced.value?_bind, Traced.value?_bind, h.id, h.scene.graph, ρ.parameterWires_onGraph,
    Traced.value?_foldlM_image fun chosen entry _ =>
      h.value?_addParameterWire chosen entry.1 entry.2]

/-! ### Placeholders -/

omit h in
/-- The arrays of a node do not depend on its id. -/
lemma findArrays_onNode (node : Node) (parameters : List (String × Parameter)) :
    findArrays (ρ.onNode node) parameters = findArrays node parameters := by
  induction parameters with
  | nil => rfl
  | cons entry rest ih =>
    unfold findArrays
    rw [ih]
    have hconstant : Identifier.arrayConstant (ρ.onNode node).id entry.1 =
        Identifier.arrayConstant node.id entry.1 := ρ.arrayConstant_label node.id entry.1
    rw [hconstant]
    rfl

lemma foundArrays : other.foundArrays = scope.foundArrays := by
  obtain ⟨title, htype⟩ := h.type
  unfold Scope.foundArrays
  rw [h.node, htype, findArrays_onNode]
  rfl

lemma arrays : other.arrays = scope.arrays := by
  unfold Scope.arrays
  rw [h.foundArrays]

/-- Both scopes write the same literal for a parameter. -/
lemma literal (name : String) (parameter : Parameter) :
    other.literal name parameter = scope.literal name parameter := by
  unfold Scope.literal
  rw [h.node]
  rfl

/-- Both scopes join the same values in the same way. -/
lemma value?_joinedValue {name : String} (hname : scope.type.Places name) (parameter : Parameter)
    (mode : WireMode) :
    (other.joinedValue name parameter mode).value? =
      (scope.joinedValue name parameter mode).value? := by
  unfold joinedValue
  rw [h.uniform? hname, h.literal]
  cases scope.scene.uniform? scope.node.id name with
  | none => simp only [Traced.value?_remark_bind]
  | some uniform => rfl

omit h in
/-- The mode of a parameter is found without failing. -/
lemma value?_modeOf (scope : Scope) (name : String) (parameter : Parameter) :
    (scope.modeOf name parameter).value? = some (scope.node.mode name (some parameter)) := by
  unfold modeOf
  generalize scope.node.mode name (some parameter) = mode
  cases scope.node.writtenMode? name with
  | none => rfl
  | some written => simp only [Traced.value?_bind, Traced.value?_remarkIf, Option.bind_some,
      Traced.value?_pure]

/-- Both scopes read a number alike. -/
lemma value?_readNumber (wires : Table String) {name : String} (hname : scope.type.Places name)
    (parameter : Parameter) :
    (other.readNumber wires name parameter).value? =
      (scope.readNumber wires name parameter).value? := by
  unfold readNumber
  cases wires.find? name with
  | none =>
    dsimp only
    rw [h.uniform? hname, h.literal]
  | some wire =>
    dsimp only
    have hmode : other.node.mode name (some parameter) =
        scope.node.mode name (some parameter) := by
      rw [h.node]
      rfl
    rw [Traced.value?_bind, Traced.value?_bind, value?_modeOf, value?_modeOf, hmode]
    refine congrArg _ (funext fun mode => ?_)
    split
    · rfl
    · rw [Traced.value?_bind, Traced.value?_bind, h.value?_joinedValue hname]

omit h in
/-- Both scopes read an array alike. -/
lemma value?_readArray (arrays : Arrays) (name : String) (index : Option String) :
    (other.readArray arrays name index).value? = (scope.readArray arrays name index).value? := by
  unfold readArray
  cases arrays.constants.find? (·.parameter == name) with
  | none => simp only [Traced.value?_remark_bind]
  | some constant => cases index <;> rfl

/-- Both scopes give the same answer for a parameter that is not declared. -/
lemma value?_undeclaredParameter (name : String) :
    (other.undeclaredParameter name).value? = (scope.undeclaredParameter name).value? := by
  unfold undeclaredParameter
  have hvalue : other.node.value? name = scope.node.value? name := by
    rw [h.node]
    rfl
  rw [Traced.value?_remark_bind, Traced.value?_remark_bind, hvalue]

/-- Both scopes give the same answer for a parameter. -/
lemma value?_param (name : String) (index : Option String) :
    (other.param name index).value? = (scope.param name index).value? := by
  unfold param
  rw [h.parameter?]
  cases hparameter : scope.type.parameter? name with
  | none => exact h.value?_undeclaredParameter name
  | some parameter =>
    -- the parameter is declared, so its uniform stands under a key that tells the node
    have hname : scope.type.Places name :=
      Or.inr (Or.inl (List.mem_map_of_mem (Table.mem_entries_of_find? hparameter)))
    have hnumber : (other.numericParameter name parameter).value? =
        (scope.numericParameter name parameter).value? := by
      unfold numericParameter
      rw [Traced.value?_bind, Traced.value?_bind, h.value?_parameterWires]
      exact congrArg _ (funext fun wires => h.value?_readNumber wires hname parameter)
    dsimp only
    cases parameter.type with
    | array =>
      dsimp only
      unfold arrayParameter
      rw [Traced.value?_bind, Traced.value?_bind, h.arrays]
      exact congrArg _ (funext fun arrays => value?_readArray arrays name index)
    | string => simp only [Traced.value?_remark_bind]
    | float =>
      dsimp only
      rw [Traced.value?_bind, Traced.value?_bind, hnumber]
    | int =>
      dsimp only
      rw [Traced.value?_bind, Traced.value?_bind, hnumber]
    | vec4 =>
      dsimp only
      rw [Traced.value?_bind, Traced.value?_bind, hnumber]

lemma value?_input (port : String) : (other.input port).value? = (scope.input port).value? := by
  unfold input
  rw [Traced.value?_bind, Traced.value?_bind, h.value?_inputs]
  refine congrArg _ (funext fun exprs => ?_)
  unfold readInput
  rw [h.input?]
  cases exprs.find? port with
  | none => simp only [Traced.value?_remark_bind]
  | some expr => rfl

lemma value?_output (port : String) : (other.output port).value? = (scope.output port).value? := by
  unfold output
  rw [h.lookup, h.id, ρ.outputVariable_label]
  cases scope.scene.variableNames.lookup scope.node.id port with
  | none => simp only [Traced.value?_remark_bind]
  | some name => rfl

lemma result : other.result = scope.result := by
  obtain ⟨title, htype⟩ := h.type
  unfold Scope.result
  rw [h.id, h.scene.ports, htype]
  rfl

lemma global (value : Template.Global) : other.global value = scope.global value := by
  unfold Scope.global
  rw [h.scene.settings]

omit h in
/-- Segments are filled alike when their holes are. -/
lemma value?_concat {α : Type} {fill fill' : α → Traced String}
    (hfill : ∀ hole, (fill' hole).value? = (fill hole).value?)
    (segments : List (Template.Segment α)) :
    (Template.concat fill' segments).value? = (Template.concat fill segments).value? := by
  induction segments with
  | nil => rfl
  | cons segment rest ih =>
    cases segment with
    | literal text => simp only [Template.concat, Traced.value?_bind, ih]
    | hole hole => simp only [Template.concat, Traced.value?_bind, ih, hfill]

/-- Templates are filled alike. -/
lemma value?_render (template : String) :
    (other.render template).value? = (scope.render template).value? := by
  have hfill : ∀ placeholder,
      (other.resolver.fill placeholder).value? = (scope.resolver.fill placeholder).value? := by
    intro placeholder
    cases placeholder with
    | input port => exact h.value?_input port
    | output port => exact h.value?_output port
    | param name => exact h.value?_param name none
    | global value => exact congrArg some (h.global value)
    | result => exact congrArg some h.result
  refine value?_concat (fun hole => ?_) (Template.segments template)
  cases hole with
  | plain placeholder => exact hfill placeholder
  | element name index =>
    unfold Template.Resolver.fillHole
    dsimp only
    rw [Traced.value?_bind, Traced.value?_bind, value?_concat hfill]
    exact congrArg _ (funext fun index => h.value?_param name (some index))

/-! ### The code of a node -/

/-- Both scopes copy the same uniforms. -/
lemma value?_copyUniforms {ports : List String} (hports : ∀ port ∈ ports, scope.type.Places port) :
    (other.copyUniforms ports).value? = (scope.copyUniforms ports).value? := by
  induction ports with
  | nil => rfl
  | cons port rest ih =>
    have hrest := ih fun port hport => hports port (List.mem_cons_of_mem _ hport)
    unfold copyUniforms
    rw [h.lookup, h.uniform? (hports port List.mem_cons_self)]
    cases scope.scene.variableNames.lookup scope.node.id port with
    | none => exact hrest
    | some name =>
      cases scope.scene.uniform? scope.node.id port with
      | none => simp only [Traced.value?_bind, Traced.value?_remark, hrest]
      | some uniform => simp only [Traced.value?_bind, hrest]

/-- Both scopes emit the same code for lanes that are selected. -/
lemma value?_swizzleCode : other.swizzleCode.value? = scope.swizzleCode.value? := by
  have hvalue : other.swizzleValue = scope.swizzleValue := by
    unfold swizzleValue
    rw [h.node, h.parameter?]
    rfl
  unfold swizzleCode
  rw [Traced.value?_bind, Traced.value?_bind, h.value?_input]
  refine congrArg _ (funext fun input => ?_)
  rw [Traced.value?_bind, Traced.value?_bind, h.value?_output]
  refine congrArg _ (funext fun output => ?_)
  rw [hvalue, h.scene.settings]
  cases Swizzle.pattern? scope.swizzleValue with
  | none =>
    rw [Traced.value?_bind, Traced.value?_bind]
    simp only [Traced.value?_remark_bind]
  | some pattern => rfl

/-- Both scopes emit the same code from their template. -/
lemma value?_templateCode : other.templateCode.value? = scope.templateCode.value? := by
  obtain ⟨title, htype⟩ := h.type
  have hcode : other.type.mainCode = scope.type.mainCode := by
    rw [htype]
    rfl
  have hdeclarations : other.arrayDeclarations = scope.arrayDeclarations := by
    unfold arrayDeclarations declareArrays
    rw [h.arrays, h.scene.settings]
  unfold templateCode
  rw [Traced.value?_bind, Traced.value?_bind, hdeclarations, hcode]
  refine congrArg _ (funext fun declarations => ?_)
  rw [Traced.value?_bind, Traced.value?_bind, h.value?_render]

/-- Both scopes emit the same code. -/
lemma value?_emit : other.emit.value? = scope.emit.value? := by
  obtain ⟨title, htype⟩ := h.type
  have hemitter : other.type.emitter other.scene.settings =
      scope.type.emitter scope.scene.settings := by
    rw [htype, h.scene.settings]
    rfl
  have hbands : other.node.bands other.type other.scene.settings =
      scope.node.bands scope.type scope.scene.settings := by
    rw [h.node, htype, h.scene.settings]
    rfl
  have houtputs : other.type.outputs = scope.type.outputs := by
    rw [htype]
    rfl
  unfold emit
  rw [hemitter]
  cases scope.type.emitter scope.scene.settings with
  | nothing => rfl
  | audioFile =>
    dsimp only
    rw [Traced.value?_bind, Traced.value?_bind, houtputs,
      h.value?_copyUniforms fun port hport => Or.inl hport]
  | audioAnalyzer =>
    dsimp only
    rw [Traced.value?_bind, Traced.value?_bind, hbands]
    refine congrArg _ (funext fun bands => ?_)
    rw [Traced.value?_bind, Traced.value?_bind,
      h.value?_copyUniforms fun port hport => Or.inr (Or.inr ⟨_, hport⟩)]
  | swizzle =>
    dsimp only
    rw [Traced.value?_bind, Traced.value?_bind, h.value?_swizzleCode]
  | template =>
    dsimp only
    rw [Traced.value?_bind, Traced.value?_bind, h.value?_templateCode]

/-- A node runs the same code under its new id, when its helpers have the same names. -/
theorem value?_body (hrenames : other.scene.renamesOf other.node.id =
    scope.scene.renamesOf scope.node.id) : other.body.value? = scope.body.value? := by
  unfold body
  rw [Traced.value?_bind, Traced.value?_bind, h.value?_emit, hrenames]

end Scope.Relabels

end ShaderLoom
