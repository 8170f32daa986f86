import ShaderLoom.Proofs.WrittenOutputs

/-!
# Templates of registered node types are resolved

A placeholder for which nothing is found is replaced by something that may not be declared.  This
never happens to outputs of a registered node type, for the type was checked when it was
registered, and variables are generated for all outputs that a node exposes.  An input is read from
the last wire that can be used, and without one it is zero; only nodes that need no inputs make a
remark about it.

The statement compares two ways to fill a template.  A strict resolver has no replacement for an
output, refuses every variable that is not declared, and gives up on inputs in the same cases.  It
fills the templates of registered node types like the resolver in use, remarks included.
-/

namespace ShaderLoom

/-! ### Declared variables -/

/-- Declaring outputs adds their variables and drops none. -/
lemma isDeclared_declareOutputs_iff {type : NodeType} {table : Table String} {ports : List String}
    {declared : List Declaration} {name : String} :
    isDeclared (declareOutputs type table declared ports) name = true ↔
      isDeclared declared name = true ∨ ∃ port ∈ ports, table.find? port = some name := by
  induction ports generalizing declared with
  | nil => simp [declareOutputs]
  | cons port ports ih =>
    unfold declareOutputs
    cases hfind : table.find? port with
    | none =>
      dsimp only
      rw [ih]
      simp [hfind]
    | some found =>
      have hstep : isDeclared (if isDeclared declared found then declared
          else declared ++ [⟨type.outputType port, found⟩]) name = true ↔
          isDeclared declared name = true ∨ found = name := by
        split
        · next hold => exact ⟨Or.inl, fun h => h.elim id fun heq => heq ▸ hold⟩
        · simp [isDeclared]
      dsimp only
      rw [ih, hstep, or_assoc]
      simp [hfind]

namespace Scene

variable {scene : Scene} {declared declared' : List Declaration} {name : String}

/-- The variables of all nodes of known type are declared. -/
def DeclaresVariables (scene : Scene) (declared : List Declaration) : Prop :=
  ∀ id type port name, scene.typeOf? id = some type →
    scene.variableNames.lookup id port = some name → name ∈ declared.map Declaration.name

/-- What is declared stays so when a node is added. -/
lemma isDeclared_of_declareNode {node : Node}
    (h : (scene.declareNode declared node).outcome = .ok declared')
    (hname : isDeclared declared name = true) : isDeclared declared' name = true := by
  unfold declareNode at h
  split at h
  · cases h
    exact hname
  · dsimp only at h
    split at h
    · cases h
      exact hname
    · rw [Traced.outcome_bind] at h
      obtain ⟨ports, -, h⟩ := bind_eq_ok_iff.mp h
      cases h
      exact isDeclared_declareOutputs_iff.mpr (Or.inl hname)

/-- What is declared stays so when a source is added. -/
lemma isDeclared_of_declareSource {wire : Wire}
    (h : (scene.declareSource declared wire).outcome = .ok declared')
    (hname : isDeclared declared name = true) : isDeclared declared' name = true := by
  unfold declareSource at h
  split at h
  · split at h
    · cases h
      exact hname
    · cases h
      rw [isDeclared_iff] at hname ⊢
      rw [List.map_append]
      exact List.mem_append_left _ hname
  · cases h
    exact hname

namespace IsNamed

variable (hnamed : scene.IsNamed)

include hnamed

/-- The outputs of every node of known type are known. -/
lemma exists_outputNames {node : Node} (hnode : node ∈ scene.graph.nodes) {type : NodeType}
    (htype : scene.catalog.find? node.type = some type) :
    ∃ ports, node.outputNames type scene.settings = .ok ports := by
  unfold IsNamed at hnamed
  rw [Variables.generate_eq] at hnamed
  obtain ⟨_, _, hstep⟩ := exists_ok_of_foldlM_eq_ok hnamed hnode
  rcases Variables.addNode_eq_ok_iff.mp hstep with ⟨hnone, -⟩ | ⟨type', ports, htype', hports, -⟩
  · rw [htype] at hnone
    cases hnone
  · rw [htype] at htype'
    cases htype'
    exact ⟨ports, hports⟩

/-- The node that an id leads to declares all variables of the id. -/
lemma isDeclared_declareNode {id port : String} {node : Node} (hnode : scene.node? id = some node)
    {type : NodeType} (htype : scene.catalog.find? node.type = some type)
    (hlookup : scene.variableNames.lookup id port = some name)
    (h : (scene.declareNode declared node).outcome = .ok declared') :
    isDeclared declared' name = true := by
  obtain ⟨ports, hports, htable⟩ := Variables.ports_of_node? hnamed hnode htype
  obtain rfl := Graph.id_of_node? hnode
  have hfind : (scene.variableNames.ports node.id).find? port = some name := hlookup
  have hport : port ∈ ports := by
    by_contra hport
    rw [htable, Variables.find?_ofNode, if_neg hport] at hfind
    cases hfind
  unfold declareNode at h
  rw [htype] at h
  dsimp only at h
  split at h
  · next hempty =>
    -- without variables there would be nothing to look up
    rw [Bool.and_eq_true] at hempty
    unfold Table.find? at hfind
    rw [List.isEmpty_iff.mp hempty.1] at hfind
    cases hfind
  · rw [Traced.outcome_bind, Traced.outcome_liftM, hports] at h
    cases h
    exact isDeclared_declareOutputs_iff.mpr (Or.inr ⟨port, hport, hfind⟩)

/-- All variables are declared, also where nodes share an id. -/
lemma exists_declaresVariables :
    ∃ declared, scene.declarations.outcome = .ok declared ∧ scene.DeclaresVariables declared := by
  obtain ⟨declared, hdeclared⟩ :=
    exists_declarations_of_outputNames fun node hnode type => hnamed.exists_outputNames hnode
  refine ⟨declared, hdeclared, fun id type port name htype hlookup => ?_⟩
  obtain ⟨node, hnode, htype⟩ := Option.bind_eq_some_iff.mp htype
  unfold declarations at hdeclared
  rw [Traced.outcome_bind, Traced.outcome_foldlM] at hdeclared
  obtain ⟨first, hfirst, hwires⟩ := bind_eq_ok_iff.mp hdeclared
  rw [Traced.outcome_foldlM] at hwires
  -- the pass over the nodes comes by the node, and later steps drop nothing
  have hpass : isDeclared first name = true :=
    holds_of_mem_of_foldlM_eq_ok (P := fun declared => isDeclared declared name = true)
      (Graph.mem_of_node? hnode) (fun _ _ => hnamed.isDeclared_declareNode hnode htype hlookup)
      (fun _ _ _ _ hname hstep => isDeclared_of_declareNode hstep hname) hfirst
  refine isDeclared_iff.mp ?_
  exact holds_of_foldlM_eq_ok (P := fun declared => isDeclared declared name = true)
    (fun _ _ _ _ hname hstep => isDeclared_of_declareSource hstep hname) hpass hwires

end IsNamed

end Scene

/-! ### Wires that can be used -/

namespace Scope

variable {scope : Scope}

/-- What a wire delivers to an input: a variable and its type, and the type of the input. -/
structure Delivery where
  name : String
  source : PortType
  target : PortType

/-- What the wire delivers to the input, if both ends of the wire are known. -/
def delivery? (scope : Scope) (wire : Wire) (port : String) : Option Delivery := do
  let input ← scope.type.input? port
  let sourceType ← scope.scene.typeOf? wire.source
  let source ← sourceType? scope.scene wire.source sourceType wire.sourcePort
  let name ← scope.scene.variableNames.lookup wire.source wire.sourcePort
  return ⟨name, source, input.type⟩

/-- What the last of the given wires that can be used delivers to the input. -/
def lastDelivery? (scope : Scope) (wires : List (Wire × String)) (port : String) :
    Option Delivery :=
  wires.reverse.findSome? fun entry =>
    if entry.2 = port then scope.delivery? entry.1 port else none

/-- What is delivered to the input, if any wire into it can be used. -/
def delivered? (scope : Scope) (port : String) : Option Delivery :=
  scope.lastDelivery? (scope.scene.graph.dataWires scope.node.id) port

/-- The variable that is delivered, converted to the type of the input. -/
def deliver (scope : Scope) (delivery : Delivery) : Except Fault String :=
  Conversion.convert (some scope.node.id) delivery.name delivery.source delivery.target

/-- A wire delivers when its input, its source and the variable of its source are known. -/
lemma delivery?_eq_some_iff {wire : Wire} {port : String} {delivery : Delivery} :
    scope.delivery? wire port = some delivery ↔
      ∃ input sourceType source name, scope.type.input? port = some input ∧
        scope.scene.typeOf? wire.source = some sourceType ∧
        sourceType? scope.scene wire.source sourceType wire.sourcePort = some source ∧
        scope.scene.variableNames.lookup wire.source wire.sourcePort = some name ∧
        delivery = ⟨name, source, input.type⟩ := by
  unfold delivery?
  simp only [Option.bind_eq_bind, Option.bind_eq_some_iff, Option.pure_def, Option.some.injEq]
  constructor
  · rintro ⟨input, hinput, sourceType, htype, source, hsource, name, hname, rfl⟩
    exact ⟨input, sourceType, source, name, hinput, htype, hsource, hname, rfl⟩
  · rintro ⟨input, sourceType, source, name, hinput, htype, hsource, hname, rfl⟩
    exact ⟨input, hinput, sourceType, htype, source, hsource, name, hname, rfl⟩

/-- A wire that can be used sets the input. -/
lemma outcome_addInput_of_some {wire : Wire} {port : String} {delivery : Delivery}
    (h : scope.delivery? wire port = some delivery) (resolved : Table String) :
    (scope.addInput resolved wire port).outcome =
      scope.deliver delivery >>= fun expr => .ok (resolved.insert port expr) := by
  obtain ⟨input, sourceType, source, name, hinput, htype, hsource, hname, rfl⟩ :=
    delivery?_eq_some_iff.mp h
  unfold addInput deliver
  dsimp only
  rw [hinput, htype]
  dsimp only
  rw [hsource, hname]
  dsimp only
  rw [Traced.outcome_bind, Traced.outcome_remarkIf, ok_bind, Traced.outcome_bind,
    Traced.outcome_liftM]
  rfl

/-- A wire that cannot be used is passed over. -/
lemma outcome_addInput_of_none {wire : Wire} {port : String}
    (h : scope.delivery? wire port = none) (resolved : Table String) :
    (scope.addInput resolved wire port).outcome = .ok resolved := by
  unfold addInput
  dsimp only
  split
  · rfl
  next input hinput =>
  split
  · rfl
  next sourceType htype =>
  split
  · rfl
  next source hsource =>
  split
  · rfl
  next name hname =>
  have hsome := delivery?_eq_some_iff.mpr
    ⟨input, sourceType, source, name, hinput, htype, hsource, hname, rfl⟩
  rw [h] at hsome
  cases hsome

/-- The last wire that delivers is the new one, or one before it. -/
lemma lastDelivery?_concat (wires : List (Wire × String)) (entry : Wire × String) (port : String) :
    scope.lastDelivery? (wires ++ [entry]) port =
      (if entry.2 = port then scope.delivery? entry.1 port else none).or
        (scope.lastDelivery? wires port) := by
  unfold lastDelivery?
  rw [List.reverse_append, List.reverse_singleton, List.singleton_append, List.findSome?_cons]
  cases if entry.2 = port then scope.delivery? entry.1 port else none <;> rfl

/-- The wires are taken one after the other, and the last one that can be used sets the input. -/
lemma find?_wired {wires : List (Wire × String)} {table : Table String}
    (h : wires.foldlM (fun resolved entry => (scope.addInput resolved entry.1 entry.2).outcome)
      Table.empty = .ok table) (port : String) :
    (scope.lastDelivery? wires port = none → table.find? port = none) ∧
      ∀ delivery, scope.lastDelivery? wires port = some delivery →
        ∃ expr, scope.deliver delivery = .ok expr ∧ table.find? port = some expr := by
  induction wires using List.reverseRecOn generalizing table with
  | nil =>
    cases h
    exact ⟨fun _ => rfl, fun _ hnone => absurd hnone (by simp [lastDelivery?])⟩
  | append_singleton wires entry ih =>
    rw [List.foldlM_append] at h
    obtain ⟨middle, hmiddle, h⟩ := bind_eq_ok_iff.mp h
    rw [List.foldlM_cons] at h
    obtain ⟨last, hlast, h⟩ := bind_eq_ok_iff.mp h
    cases h
    rw [lastDelivery?_concat]
    cases hentry : scope.delivery? entry.1 entry.2 with
    | none =>
      rw [outcome_addInput_of_none hentry] at hlast
      cases hlast
      have hnone : (if entry.2 = port then scope.delivery? entry.1 port else none) = none := by
        split
        · next heq => rw [← heq, hentry]
        · rfl
      rw [hnone, Option.none_or]
      exact ih hmiddle
    | some delivery =>
      rw [outcome_addInput_of_some hentry] at hlast
      obtain ⟨expr, hexpr, hlast⟩ := bind_eq_ok_iff.mp hlast
      cases hlast
      rw [Table.find?_insert]
      by_cases hport : entry.2 = port
      · rw [if_pos hport, if_pos hport, ← hport, hentry, Option.some_or]
        refine ⟨fun hnone => absurd hnone (by simp), fun other hother => ?_⟩
        cases hother
        exact ⟨expr, hexpr, rfl⟩
      · rw [if_neg hport, if_neg hport, Option.none_or]
        exact ih hmiddle

section Inputs

variable {table : Table String} (hinputs : scope.inputs.outcome = .ok table) {port : String}

include hinputs

/-- An input that something is delivered to stands for it. -/
lemma readInput_of_delivered {delivery : Delivery} (h : scope.delivered? port = some delivery) :
    scope.readInput table port = Traced.lift (scope.deliver delivery) := by
  unfold inputs at hinputs
  rw [Traced.outcome_bind, Traced.outcome_foldlM] at hinputs
  obtain ⟨wired, hwired, hinputs⟩ := bind_eq_ok_iff.mp hinputs
  obtain ⟨expr, hexpr, hfind⟩ := (find?_wired hwired port).2 delivery h
  have htable : table.find? port = some expr := by
    split at hinputs
    · cases hinputs
      exact hfind
    · cases hinputs
      rw [find?_fillUp, hfind, Option.some_or]
  unfold readInput
  rw [htable, hexpr]
  rfl

/-- An input that nothing is delivered to is zero, and only a node that needs no inputs makes a
remark about it. -/
lemma readInput_of_not_delivered (h : scope.delivered? port = none) {input : Port}
    (hinput : scope.type.input? port = some input) :
    scope.readInput table port =
      if scope.isSelfSufficient then scope.readInput Table.empty port
      else pure input.type.zeroText := by
  unfold inputs at hinputs
  rw [Traced.outcome_bind, Traced.outcome_foldlM] at hinputs
  obtain ⟨wired, hwired, hinputs⟩ := bind_eq_ok_iff.mp hinputs
  have hfind := (find?_wired hwired port).1 h
  split at hinputs
  · next hself =>
    cases hinputs
    rw [if_pos hself]
    unfold readInput
    rw [hfind]
    rfl
  · next hself =>
    cases hinputs
    have hzero : (scope.type.inputs.find? fun port' => port'.name == port) = some input := hinput
    rw [if_neg hself]
    unfold readInput
    rw [find?_fillUp, hfind, Option.none_or, hzero]
    rfl

end Inputs

/-! ### Filling templates strictly -/

/-- What an input stands for once the wires have been followed.  A variable that is not declared is
refused, and so is an input that nothing is known about; an input without a wire is replaced only
for a node that needs no inputs. -/
def strictInput (scope : Scope) (declared : List Declaration) (port : String) :
    ExceptT Template.Placeholder Traced String :=
  match scope.delivered? port, scope.type.input? port with
  | some delivery, _ =>
    if delivery.name ∈ declared.map Declaration.name then
      liftM (Traced.lift (scope.deliver delivery))
    else throw (.input port)
  | none, some input =>
    if scope.isSelfSufficient then liftM (scope.readInput Table.empty port)
    else pure input.type.zeroText
  | none, none => throw (.input port)

/-- What the placeholders of the node's templates stand for, with no replacement for an output that
has no variable, and only with variables that are declared. -/
def strictResolver (scope : Scope) (declared : List Declaration) :
    Template.Resolver (ExceptT Template.Placeholder Traced) where
  input port := do
    let _ ← (liftM scope.inputs : ExceptT Template.Placeholder Traced (Table String))
    scope.strictInput declared port
  output port :=
    match scope.scene.variableNames.lookup scope.node.id port with
    | some name =>
      if name ∈ declared.map Declaration.name then pure name else throw (.output port)
    | none => throw (.output port)
  param name index := liftM (scope.param name index)
  global value := liftM (scope.resolver.global value)
  result := liftM scope.resolver.result

variable {declared : List Declaration} {port : String}
  (h : scope.scene.DeclaresVariables declared)

include h in
/-- What is delivered has a declared variable. -/
lemma mem_names_of_delivered {delivery : Delivery}
    (hdelivered : scope.delivered? port = some delivery) :
    delivery.name ∈ declared.map Declaration.name := by
  obtain ⟨entry, -, hentry⟩ := List.exists_of_findSome?_eq_some hdelivered
  split at hentry
  · obtain ⟨_, _, _, _, -, htype, -, hname, rfl⟩ := delivery?_eq_some_iff.mp hentry
    exact h _ _ _ _ htype hname
  · cases hentry

include h in
/-- Declared inputs are read without refusals. -/
lemma strict_input (hport : scope.type.declares (.input port) = true) :
    (scope.strictResolver declared).input port = liftM (scope.input port) := by
  obtain ⟨input, hinput⟩ : ∃ input, scope.type.input? port = some input :=
    Option.isSome_iff_exists.mp (List.find?_isSome.mpr (List.any_eq_true.mp hport))
  -- the strict answer is an answer without refusals, and one that agrees after the wires
  obtain ⟨answer, hstrict, hanswer⟩ : ∃ answer : Traced String,
      scope.strictInput declared port = liftM answer ∧
        ∀ table, scope.inputs.outcome = .ok table → scope.readInput table port = answer := by
    unfold strictInput
    cases hdelivered : scope.delivered? port with
    | some delivery =>
      refine ⟨_, if_pos (mem_names_of_delivered h hdelivered), fun table htable => ?_⟩
      exact readInput_of_delivered htable hdelivered
    | none =>
      rw [hinput]
      dsimp only
      refine ⟨_, ?_, fun table htable => readInput_of_not_delivered htable hdelivered hinput⟩
      split
      · rfl
      · rw [liftM_pure]
  have hsame : scope.input port = scope.inputs >>= fun _ => answer :=
    Traced.bind_congr_of_ok hanswer
  rw [hsame, liftM_bind]
  exact bind_congr fun _ => hstrict

include h in
/-- Outputs that have variables are written without refusals. -/
lemma strict_output (htype : scope.scene.typeOf? scope.node.id = some scope.type) {name : String}
    (hname : scope.scene.variableNames.lookup scope.node.id port = some name) :
    (scope.strictResolver declared).output port = liftM (scope.output port) := by
  have hstrict : (scope.strictResolver declared).output port = pure name := by
    unfold strictResolver
    dsimp only
    rw [hname]
    exact if_pos (h _ _ _ _ htype hname)
  have houtput : scope.output port = pure name := by
    unfold output
    rw [hname]
  rw [hstrict, houtput, liftM_pure]

/-- A node whose type is no analyzer has variables for all declared outputs. -/
lemma exists_lookup_of_declares (hnamed : scope.scene.IsNamed) {id : String}
    (hof : of? scope.scene id = some scope)
    (hanalyzer : scope.type.id ≠ scope.scene.settings.audioAnalyzerType)
    (hport : scope.type.declares (.output port) = true) :
    ∃ name, scope.scene.variableNames.lookup scope.node.id port = some name := by
  obtain ⟨node, type, hnode, htype, hscope⟩ := of?_eq_some_iff.mp hof
  obtain ⟨ports, hports, hlookup⟩ := Variables.exists_lookup_of_node? hnamed hnode htype
  rw [hscope] at hanalyzer hport
  have hnames : ports = type.outputs.map Port.name := by
    unfold Node.outputNames at hports
    rw [if_neg hanalyzer] at hports
    exact (Except.ok.inj hports).symm
  obtain ⟨output, houtput, hname⟩ := List.any_eq_true.mp hport
  have hmem : port ∈ ports := by
    rw [hnames]
    exact List.mem_map.mpr ⟨output, houtput, beq_iff_eq.mp hname⟩
  refine ⟨Identifier.outputVariable id port, ?_⟩
  rw [id_of_of? hof, hlookup, if_pos hmem]

end Scope

/-- Templates of registered node types are filled strictly: whatever the graph, the order and the
uniforms, no output lacks a variable, all variables are declared, and only nodes that need no
inputs go without a wire.  Analyzers, which have other outputs than their type declares, are left
out. -/
theorem Scene.render_strict_of_registered (calls : List Registration) (scene : Scene)
    (hcatalog : scene.catalog = calls.foldl Catalog.after Catalog.empty)
    (hnamed : scene.IsNamed) :
    ∃ declared, scene.declarations.outcome = .ok declared ∧
      ∀ id scope, Scope.of? scene id = some scope →
        scope.type.id ≠ scene.settings.audioAnalyzerType → ∀ template ∈ scope.type.templates,
          (Template.render (scope.strictResolver declared) template).run =
            Except.ok <$> scope.render template := by
  obtain ⟨declared, hdeclared, hvariables⟩ := hnamed.exists_declaresVariables
  refine ⟨declared, hdeclared, fun id scope hof hanalyzer template htemplate => ?_⟩
  obtain ⟨node, type, hnode, htype, rfl⟩ := Scope.of?_eq_some_iff.mp hof
  have hasks : type.AsksDeclared := by
    rw [hcatalog] at htype
    exact (Catalog.invariant_empty.run calls).kept.asks _ _ (Table.mem_entries_of_find? htype)
  have hasked := hasks.declares_of_mem htemplate
  refine Template.render_liftM (fun placeholder hplaceholder => ?_) fun _ _ _ => rfl
  cases placeholder with
  | input port => exact Scope.strict_input hvariables (hasked _ hplaceholder)
  | output port =>
    obtain ⟨name, hname⟩ :=
      Scope.exists_lookup_of_declares hnamed hof hanalyzer (hasked _ hplaceholder)
    refine Scope.strict_output hvariables ?_ hname
    rw [Scope.id_of_of? hof]
    exact Scene.typeOf?_of_of? hof
  | param name => rfl
  | global value => rfl
  | result => rfl

/-- Registrations of a wave, of a blend and of a node type that is refused. -/
def waveRegistrations : List Registration :=
  [⟨{ id := "wave", displayName := "Wave", category := "Inputs", inputs := [⟨"phase", .float, none⟩]
      outputs := [⟨"out", .float, none⟩], parameters := Table.empty
      mainCode := "$output.out = sin($time + $input.phase);", functions := none
      description := "" }, false⟩,
   ⟨{ id := "blend", displayName := "Blend", category := "Math"
      inputs := [⟨"a", .float, none⟩, ⟨"b", .vec3, none⟩]
      outputs := [⟨"out", .vec3, none⟩], parameters := Table.empty
      mainCode := "$output.out = tinted($input.b);"
      functions := some "vec3 tinted(vec3 x) \x7b return x * $input.a; \x7d"
      description := "" }, false⟩,
   ⟨{ id := "hole", displayName := "Hole", category := "Math", inputs := []
      outputs := [⟨"out", .float, none⟩], parameters := Table.empty
      mainCode := "$output.other = 1.0;", functions := none, description := "" }, false⟩]

/-- A blend of a wave, under an id that another node had before. -/
def wavedBlend : Scene :=
  let graph : Graph :=
    { nodes := [⟨"n", "wave", Table.empty, Table.empty⟩, ⟨"w", "wave", Table.empty, Table.empty⟩,
        ⟨"n", "blend", Table.empty, Table.empty⟩, ⟨"h", "hole", Table.empty, Table.empty⟩]
      wires := [⟨"n", "out", "n", .port "b"⟩, ⟨"w", "out", "n", .port "b"⟩,
        ⟨"h", "out", "n", .port "b"⟩] }
  let catalog := waveRegistrations.foldl Catalog.after Catalog.empty
  { graph, catalog, order := ["w", "n"], uniforms := Table.empty, renames := Table.empty
    settings := {}
    variableNames := (Variables.generate graph catalog {}).toOption.getD Table.empty }

/-- The blend reads the last wire that can be used, and its other input is zero; the wave needs no
input, and a remark is made about the one that it asks for. -/
theorem Scene.render_strict_of_registered_wavedBlend :
    (wavedBlend.typeOf? "h").isNone = true ∧
      (Scope.of? wavedBlend "n").map (fun scope => scope.type.templates.map fun template =>
        (scope.render template).outcome.toOption) =
          some [some "node_n_out = tinted(vec3(node_w_out, node_w_out, node_w_out));",
            some "vec3 tinted(vec3 x) \x7b return x * 0.0; \x7d"] ∧
      (Scope.of? wavedBlend "w").map (fun scope =>
        (scope.render scope.type.mainCode).remarks.map Remark.message) =
          some ["Input w.phase is not available; using zero"] ∧
      ∃ declared, wavedBlend.declarations.outcome = .ok declared ∧
        ∀ id scope, Scope.of? wavedBlend id = some scope →
          scope.type.id ≠ wavedBlend.settings.audioAnalyzerType →
            ∀ template ∈ scope.type.templates,
              (Template.render (scope.strictResolver declared) template).run =
                Except.ok <$> scope.render template := by
  have hnamed : wavedBlend.IsNamed := eq_ok_of_isSome_toOption Table.empty (by decide +kernel)
  refine ⟨by decide +kernel, by decide +kernel, by decide +kernel, ?_⟩
  exact Scene.render_strict_of_registered waveRegistrations wavedBlend rfl hnamed

end ShaderLoom
