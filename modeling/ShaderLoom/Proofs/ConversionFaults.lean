import ShaderLoom.Proofs.Compilability
import ShaderLoom.Proofs.OutputVariables

/-!
# Why a conversion stops a compilation

A value cannot become a truth, nor a truth a value, so a wire from one to the other stops a
compilation.  Nothing else does so with a failed conversion: wherever the fault comes up, be it in
the planning of helper names, in the code of a node, in its helpers or in the final color, there is
a wire to blame, which carries a value of the one type to a place where the other is expected.
-/

namespace ShaderLoom

/-! ### Faults that may come up -/

section FailsOnly

variable {α β : Type} {allowed : Fault → Prop}

/-- Whatever fault stops the computation, it is an allowed one. -/
def FailsOnly (allowed : Fault → Prop) (outcome : Except Fault α) : Prop :=
  ∀ fault, outcome = .error fault → allowed fault

namespace FailsOnly

lemma ok (a : α) : FailsOnly allowed (.ok a) := nofun

lemma error {fault : Fault} (h : allowed fault) :
    FailsOnly allowed (.error fault : Except Fault α) := by
  intro other heq
  cases heq
  exact h

lemma of_exists_ok {outcome : Except Fault α} (h : ∃ a, outcome = .ok a) :
    FailsOnly allowed outcome := by
  obtain ⟨a, rfl⟩ := h
  exact ok a

/-- Faults that are allowed stay so when more are. -/
lemma mono {wider : Fault → Prop} {outcome : Except Fault α} (h : FailsOnly allowed outcome)
    (hwider : ∀ fault, allowed fault → wider fault) : FailsOnly wider outcome :=
  fun fault hfault => hwider fault (h fault hfault)

/-- Two computations fail only as either does. -/
lemma bind {first : Except Fault α} {next : α → Except Fault β} (h : FailsOnly allowed first)
    (hnext : ∀ a, FailsOnly allowed (next a)) : FailsOnly allowed (first >>= next) := by
  intro fault hfault
  rcases bind_eq_error_iff.mp hfault with hfault | ⟨a, -, hfault⟩
  · exact h fault hfault
  · exact hnext a fault hfault

lemma mapM {f : α → Except Fault β} {items : List α}
    (h : ∀ item ∈ items, FailsOnly allowed (f item)) : FailsOnly allowed (items.mapM f) := by
  intro fault hfault
  obtain ⟨item, hitem, hfault⟩ := exists_error_of_mapM_eq_error hfault
  exact h item hitem fault hfault

lemma foldlM {f : β → α → Except Fault β} {items : List α}
    (h : ∀ b, ∀ item ∈ items, FailsOnly allowed (f b item)) (start : β) :
    FailsOnly allowed (items.foldlM f start) := by
  intro fault hfault
  obtain ⟨item, hitem, b, hfault⟩ := exists_error_of_foldlM_eq_error hfault
  exact h b item hitem fault hfault

end FailsOnly

end FailsOnly

namespace Template

variable {allowed : Fault → Prop}

/-- Segments fail only as their holes do. -/
lemma failsOnly_concat {α : Type} {fill : α → Traced String}
    (h : ∀ hole, FailsOnly allowed (fill hole).outcome) (segments : List (Segment α)) :
    FailsOnly allowed (concat fill segments).outcome := by
  induction segments with
  | nil => exact FailsOnly.ok ""
  | cons segment rest ih =>
    cases segment with
    | literal text =>
      unfold concat
      rw [Traced.outcome_bind]
      exact ih.bind fun _ => FailsOnly.ok _
    | hole hole =>
      unfold concat
      rw [Traced.outcome_bind]
      refine (h hole).bind fun text => ?_
      rw [Traced.outcome_bind]
      exact ih.bind fun _ => FailsOnly.ok _

/-- A template fails only as its placeholders do. -/
lemma failsOnly_render {resolver : Resolver Traced}
    (hinput : ∀ port, FailsOnly allowed (resolver.input port).outcome)
    (houtput : ∀ port, FailsOnly allowed (resolver.output port).outcome)
    (hparam : ∀ name index, FailsOnly allowed (resolver.param name index).outcome)
    (hglobal : ∀ value, FailsOnly allowed (resolver.global value).outcome)
    (hresult : FailsOnly allowed resolver.result.outcome) (template : String) :
    FailsOnly allowed (render resolver template).outcome := by
  have hfill : ∀ placeholder, FailsOnly allowed (resolver.fill placeholder).outcome := by
    intro placeholder
    cases placeholder with
    | input port => exact hinput port
    | output port => exact houtput port
    | param name => exact hparam name none
    | global value => exact hglobal value
    | result => exact hresult
  refine failsOnly_concat (fun hole => ?_) (segments template)
  cases hole with
  | plain placeholder => exact hfill placeholder
  | element name index =>
    unfold Resolver.fillHole
    rw [Traced.outcome_bind]
    exact (failsOnly_concat hfill (indexSegments index)).bind fun text => hparam name (some text)

end Template

/-! ### Wires to blame -/

/-- No later wire leads to the same input as the given one. -/
def Graph.IsLastInto (graph : Graph) (wire : Wire) (port : String) : Prop :=
  ∃ before after, graph.wires = before ++ wire :: after ∧ wire.target = .port port ∧
    ∀ other ∈ after, other.node = wire.node → other.target ≠ .port port

namespace Scene

/-- The output that the wire comes from has the type: it is declared with the type, or it is
exposed without a declaration, as the bands of analyzers are, which carry numbers. -/
def Brings (scene : Scene) (wire : Wire) (type : PortType) : Prop :=
  ∃ node nodeType, scene.node? wire.source = some node ∧
    scene.catalog.find? node.type = some nodeType ∧
    ((∃ output, nodeType.output? wire.sourcePort = some output ∧ output.type = type) ∨
      nodeType.output? wire.sourcePort = none ∧ type = .float ∧
        ∃ ports, node.outputNames nodeType scene.settings = .ok ports ∧ wire.sourcePort ∈ ports)

/-- What is expected where the wire ends, and the node that a fault there names. -/
inductive Expects (scene : Scene) (wire : Wire) : PortType → Option String → Prop
  /-- A declared input expects its type. -/
  | input {type : NodeType} {port : Port} (name : String) (target : wire.target = .port name)
      (known : scene.typeOf? wire.node = some type) (declared : type.input? name = some port) :
      Expects scene wire port.type (some wire.node)
  /-- A float parameter expects a number. -/
  | parameter {type : NodeType} {parameter : Parameter} (name : String)
      (target : wire.target = .parameter name) (known : scene.typeOf? wire.node = some type)
      (declared : type.parameter? name = some parameter) (number : parameter.type = .float) :
      Expects scene wire .float (some wire.node)
  /-- The sink that is shown expects a color at the end of the last wire into it. -/
  | color {type : NodeType} (shown : scene.sink? = some wire.node)
      (known : scene.typeOf? wire.node = some type)
      (last : scene.graph.IsLastInto wire (scene.colorPort type)) : Expects scene wire .vec3 none

/-- The wire carries a truth to where something else is expected, or something else to where a
truth is expected. -/
structure Blames (scene : Scene) (source target : PortType) (node : Option String) (wire : Wire) :
    Prop where
  mem : wire ∈ scene.graph.wires
  brings : scene.Brings wire source
  expects : scene.Expects wire target node
  truth : source = .bool ↔ target ≠ .bool

/-- If the fault is a failed conversion, a wire is to blame. -/
def Explains (scene : Scene) : Fault → Prop
  | .conversion source target node => ∃ wire, scene.Blames source target node wire
  | _ => True

/-- No wire comes from a truth or leads to one. -/
def WiresNoTruth (scene : Scene) : Prop :=
  ∀ wire ∈ scene.graph.wires, ¬scene.Brings wire .bool ∧ ∀ node, ¬scene.Expects wire .bool node

end Scene

namespace Conversion

/-- Only a truth cannot become anything else, and nothing else can become a truth. -/
lemma convert_eq_error {node : Option String} {expr : String} {source target : PortType}
    {fault : Fault} (h : convert node expr source target = .error fault) :
    fault = .conversion source target node ∧ (source = .bool ↔ target ≠ .bool) := by
  cases source <;> cases target <;> simp_all [convert]

/-- A parameter that is driven by a wire refuses truths only. -/
lemma toParameter_eq_error {node : Option String} {expr : String} {type : PortType} {fault : Fault}
    (h : toParameter node expr type = .error fault) :
    fault = .conversion .bool .float node ∧ type = .bool := by
  cases type <;> simp_all [toParameter]

/-- A color is made of everything but truths. -/
lemma toColor_eq_error {expr : String} {type : PortType} {fault : Fault}
    (h : toColor expr type = .error fault) :
    fault = .conversion .bool .vec3 none ∧ type = .bool := by
  cases type <;> simp_all [toColor]

end Conversion

namespace Scene

variable {scene : Scene}

/-- A wire whose output has a type for its readers brings that type. -/
lemma brings_of_sourceType? (hnamed : scene.IsNamed) {wire : Wire} {type : NodeType}
    (htype : scene.typeOf? wire.source = some type) {portType : PortType}
    (hport : Scope.sourceType? scene wire.source type wire.sourcePort = some portType) :
    scene.Brings wire portType := by
  obtain ⟨node, hnode, hfind⟩ := Option.bind_eq_some_iff.mp htype
  refine ⟨node, type, hnode, hfind, ?_⟩
  unfold Scope.sourceType? at hport
  split at hport
  · next output houtput =>
    cases hport
    exact Or.inl ⟨output, houtput, rfl⟩
  · next hnone =>
    split at hport
    · next hshown =>
      cases hport
      obtain ⟨ports, hports, hlookup⟩ := Variables.exists_lookup_of_node? hnamed hnode hfind
      refine Or.inr ⟨hnone, rfl, ports, hports, ?_⟩
      by_contra hmem
      rw [hlookup, if_neg hmem] at hshown
      cases hshown
    · cases hport

/-- The last of the wires into an input is the last one in the graph. -/
lemma isLastInto_of_getLast? {graph : Graph} {id port : String} {wire : Wire} {name : String}
    (h : ((graph.dataWires id).filter fun (_, other) => other = port).getLast? =
      some (wire, name)) :
    wire ∈ graph.wires ∧ wire.node = id ∧ graph.IsLastInto wire port := by
  obtain ⟨front, hfront⟩ := List.getLast?_eq_some_iff.mp h
  unfold Graph.dataWires at hfront
  rw [List.filter_filterMap] at hfront
  obtain ⟨before, rest, hwires, -, hrest⟩ := List.filterMap_eq_append_iff.mp hfront
  obtain ⟨skipped, last, after, hrest, -, hlast, hafter⟩ := List.filterMap_eq_cons_iff.mp hrest
  have hsplit : graph.wires = (before ++ skipped) ++ last :: after := by
    rw [hwires, hrest, List.append_assoc]
  simp only [Option.filter_eq_some_iff, decide_eq_true_eq] at hlast
  obtain ⟨hlast, rfl⟩ := hlast
  by_cases hnode : last.node = id
  · rw [if_pos hnode, Option.map_eq_some_iff] at hlast
    obtain ⟨_, hname, hpair⟩ := hlast
    cases hpair
    refine ⟨?_, hnode, before ++ skipped, after, hsplit, Wire.port?_eq_some_iff.mp hname, ?_⟩
    · rw [hsplit]
      simp
    · intro other hother hsame htarget
      have hnone := List.filterMap_eq_nil_iff.mp hafter other hother
      rw [if_pos (hsame.trans hnode), Wire.port?_eq_some_iff.mpr htarget] at hnone
      simp at hnone
  · rw [if_neg hnode] at hlast
    cases hlast

end Scene

/-! ### Faults of other kinds -/

/-- The types and the node of a failed conversion. -/
def Fault.conversion? : Fault → Option (PortType × PortType × Option String)
  | .conversion source target node => some (source, target, node)
  | _ => none

/-- The failed conversion that stopped a computation. -/
def failedConversion? {α : Type} : Except Fault α → Option (PortType × PortType × Option String)
  | .error fault => fault.conversion?
  | .ok _ => none

/-- The failed conversion of a computation is the fault that it ended with. -/
lemma failedConversion?_eq_some_iff {α : Type} {outcome : Except Fault α}
    {source target : PortType} {node : Option String} :
    failedConversion? outcome = some (source, target, node) ↔
      outcome = .error (.conversion source target node) := by
  cases outcome with
  | ok a => simp [failedConversion?]
  | error fault => cases fault <;> simp [failedConversion?, Fault.conversion?]

/-- The fault is no failed conversion. -/
def Fault.IsOther (fault : Fault) : Prop := fault.conversion? = none

/-- A fault of another kind needs no wire to blame. -/
lemma FailsOnly.explained {α : Type} {outcome : Except Fault α}
    (h : FailsOnly Fault.IsOther outcome) (scene : Scene) : FailsOnly scene.Explains outcome := by
  intro fault hfault
  have hother := h fault hfault
  cases fault with
  | conversion source target node => cases hother
  | _ => exact trivial

lemma failsOnly_bands (node : Node) (type : NodeType) (settings : Settings) :
    FailsOnly Fault.IsOther (node.bands type settings) := by
  have hvalue : ∀ value, FailsOnly Fault.IsOther (bandsOfValue? value) := by
    intro value
    unfold bandsOfValue?
    split
    · split
      · exact FailsOnly.ok _
      · exact FailsOnly.ok _
    · exact FailsOnly.error rfl
    · exact FailsOnly.ok _
  unfold Node.bands
  generalize node.bandsCandidates type = candidates
  induction candidates with
  | nil =>
    unfold Node.firstBands
    cases settings.defaultBands.toGrid with
    | error cause => exact FailsOnly.error rfl
    | ok grid => exact FailsOnly.ok _
  | cons value rest ih =>
    unfold Node.firstBands
    refine (hvalue value).bind fun bands => ?_
    cases bands with
    | some bands => exact FailsOnly.ok _
    | none => exact ih

lemma failsOnly_outputNames (node : Node) (type : NodeType) (settings : Settings) :
    FailsOnly Fault.IsOther (node.outputNames type settings) := by
  unfold Node.outputNames
  split
  · exact (failsOnly_bands node type settings).bind fun _ => FailsOnly.ok _
  · exact FailsOnly.ok _

lemma failsOnly_audioOutputs (node : Node) (type : NodeType)
    (settings : Settings) : FailsOnly Fault.IsOther (Uniform.audioOutputs node type settings) := by
  unfold Uniform.audioOutputs
  split
  · split
    · exact FailsOnly.ok _
    · split
      · exact (failsOnly_bands node type settings).bind fun _ => FailsOnly.ok _
      · exact FailsOnly.ok _
  · exact FailsOnly.ok _

/-- New names for helpers convert nothing. -/
lemma failsOnly_renameAll (renames : List (String × String)) (code : List Char) :
    FailsOnly Fault.IsOther (Helper.renameAll renames code) := by
  refine FailsOnly.foldlM (fun code rename _ => ?_) code
  unfold Helper.renameOne
  split
  · exact FailsOnly.ok _
  · exact FailsOnly.error rfl

namespace Scope

/-- A literal is written without conversion. -/
lemma failsOnly_literal (scope : Scope) (name : String) (parameter : Parameter) :
    FailsOnly Fault.IsOther (scope.literal name parameter) := by
  unfold literal
  cases Literal.ofParameter (scope.node.settledValue name parameter) parameter.type with
  | error cause => exact FailsOnly.error rfl
  | ok text => exact FailsOnly.ok text

lemma failsOnly_arrays (scope : Scope) : FailsOnly Fault.IsOther scope.arrays := by
  unfold arrays
  cases scope.foundArrays.fault with
  | some cause => exact FailsOnly.error rfl
  | none => exact FailsOnly.ok _

/-- The arrays of a node are declared without conversion. -/
lemma failsOnly_arrayDeclarations (scope : Scope) :
    FailsOnly Fault.IsOther scope.arrayDeclarations := by
  refine (failsOnly_arrays scope).bind fun arrays => FailsOnly.mapM fun constant _ => ?_
  refine FailsOnly.bind (FailsOnly.mapM fun entry _ => ?_) fun _ => FailsOnly.ok _
  unfold Literal.ofEntry
  split
  · exact FailsOnly.ok _
  · exact FailsOnly.error rfl

/-- A parameter that is not declared is put in without conversion. -/
lemma failsOnly_undeclaredParameter (scope : Scope) (name : String) :
    FailsOnly Fault.IsOther (scope.undeclaredParameter name).outcome := by
  rcases undeclaredParameter_cases scope name with ⟨-, text, htext⟩ | ⟨-, hfault⟩
  · rw [htext]
    exact FailsOnly.ok text
  · rw [hfault]
    exact FailsOnly.error rfl

/-- A pattern that is shown in a remark is not converted. -/
lemma failsOnly_swizzleShown (scope : Scope) : FailsOnly Fault.IsOther scope.swizzleShown := by
  rcases swizzleShown_cases scope with ⟨-, hshown⟩ | ⟨cause, -, hshown⟩
  · rw [hshown]
    exact FailsOnly.ok ()
  · rw [hshown]
    exact FailsOnly.error rfl

end Scope

/-- The variables of a graph are named without conversion. -/
lemma Variables.failsOnly_generate (graph : Graph) (catalog : Catalog) (settings : Settings) :
    FailsOnly Fault.IsOther (Variables.generate graph catalog settings) := by
  refine FailsOnly.foldlM (fun table node _ => ?_) Table.empty
  split
  · exact FailsOnly.ok _
  · exact (failsOnly_outputNames _ _ _).bind fun _ => FailsOnly.ok _

/-- The uniforms of a graph are allocated without conversion. -/
lemma Uniform.failsOnly_allocate (graph : Graph) (catalog : Catalog) (settings : Settings) :
    FailsOnly Fault.IsOther (Uniform.allocate graph catalog settings) := by
  refine FailsOnly.foldlM (fun table node _ => ?_) Table.empty
  split
  · exact FailsOnly.ok _
  · refine FailsOnly.bind ?_ fun _ => FailsOnly.ok _
    exact (failsOnly_audioOutputs _ _ _).bind fun _ => FailsOnly.ok _

/-- The uniforms of a graph are recorded without conversion. -/
lemma Uniform.failsOnly_records (graph : Graph) (catalog : Catalog) (table : Table String)
    (used : Option (List String)) (settings : Settings) :
    FailsOnly Fault.IsOther (Uniform.records graph catalog table used settings) := by
  rw [records_eq]
  refine FailsOnly.bind (FailsOnly.mapM fun node _ => ?_) fun _ => FailsOnly.ok _
  unfold recordsOf
  split
  · exact FailsOnly.ok _
  · exact (failsOnly_audioOutputs _ _ _).bind fun _ => FailsOnly.ok _

/-! ### What templates ask for -/

namespace Scope

variable {scope : Scope}

/-- A number fails only as a literal in it does. -/
lemma failsOnly_readNumber (scope : Scope) (wires : Table String) (name : String)
    (parameter : Parameter) :
    FailsOnly scope.scene.Explains (scope.readNumber wires name parameter).outcome := by
  unfold readNumber
  cases wires.find? name with
  | some wire =>
    dsimp only
    rw [Traced.outcome_bind, outcome_modeOf, ok_bind]
    split
    · exact FailsOnly.ok _
    · rw [Traced.outcome_bind]
      refine FailsOnly.bind ?_ fun _ => FailsOnly.ok _
      unfold joinedValue
      cases scope.scene.uniform? scope.node.id name with
      | some uniform => exact FailsOnly.ok _
      | none => exact (failsOnly_literal scope name parameter).explained scope.scene
  | none =>
    cases scope.scene.uniform? scope.node.id name with
    | some uniform => exact FailsOnly.ok _
    | none => exact (failsOnly_literal scope name parameter).explained scope.scene

section Blamed

variable (hnamed : scope.scene.IsNamed)
  (hknown : scope.scene.typeOf? scope.node.id = some scope.type)

include hnamed hknown

/-- A wire into an input is to blame if its value cannot be converted. -/
lemma failsOnly_addInput {wire : Wire} {port : String}
    (hwire : (wire, port) ∈ scope.scene.graph.dataWires scope.node.id) (resolved : Table String) :
    FailsOnly scope.scene.Explains (scope.addInput resolved wire port).outcome := by
  obtain ⟨hmem, hnode, htarget⟩ := Graph.mem_dataWires_iff.mp hwire
  unfold addInput
  dsimp only
  split
  · exact FailsOnly.ok _
  next input hinput =>
  split
  · exact FailsOnly.ok _
  next sourceType htype =>
  split
  · exact FailsOnly.ok _
  next type hport =>
  split
  · exact FailsOnly.ok _
  next name _ =>
  rw [Traced.outcome_bind, Traced.outcome_remarkIf, ok_bind, Traced.outcome_bind,
    Traced.outcome_liftM]
  refine FailsOnly.bind (fun fault hfault => ?_) fun _ => FailsOnly.ok _
  obtain ⟨rfl, htruth⟩ := Conversion.convert_eq_error hfault
  rw [← hnode] at hknown ⊢
  exact ⟨wire, hmem, Scene.brings_of_sourceType? hnamed htype hport,
    .input port htarget hknown hinput, htruth⟩

/-- An input fails to convert only if a wire into it is to blame. -/
lemma failsOnly_input (port : String) :
    FailsOnly scope.scene.Explains (scope.input port).outcome := by
  have hinputs : FailsOnly scope.scene.Explains scope.inputs.outcome := by
    unfold inputs
    rw [Traced.outcome_bind, Traced.outcome_foldlM]
    refine FailsOnly.bind (FailsOnly.foldlM (fun resolved item hitem => ?_) _) fun wired => ?_
    · exact failsOnly_addInput hnamed hknown hitem resolved
    · split
      · exact FailsOnly.ok _
      · exact FailsOnly.ok _
  unfold input
  rw [Traced.outcome_bind]
  refine hinputs.bind fun table => ?_
  unfold readInput
  cases table.find? port with
  | some expr => exact FailsOnly.ok _
  | none => exact FailsOnly.ok _

/-- A wire into a parameter is to blame if it carries a truth. -/
lemma failsOnly_addParameterWire {wire : Wire} {name : String}
    (hwire : (wire, name) ∈ scope.scene.graph.parameterWires scope.node.id)
    (chosen : Table (Nat × String)) :
    FailsOnly scope.scene.Explains (scope.addParameterWire chosen wire name).outcome := by
  obtain ⟨hmem, hnode, htarget⟩ := Graph.mem_parameterWires_iff.mp hwire
  unfold addParameterWire
  dsimp only
  split
  · exact FailsOnly.ok _
  next hfloat =>
  split
  · exact FailsOnly.ok _
  next sourceType htype =>
  split
  · exact FailsOnly.ok _
  next type hport =>
  split
  · exact FailsOnly.ok _
  split
  · exact FailsOnly.ok _
  split
  · exact FailsOnly.ok _
  rw [Traced.outcome_bind]
  refine FailsOnly.bind (FailsOnly.of_exists_ok ⟨_, scope.outcome_sourceVariable wire⟩)
    fun source => ?_
  rw [Traced.outcome_bind, Traced.outcome_liftM]
  refine FailsOnly.bind (fun fault hfault => ?_) fun _ => FailsOnly.ok _
  obtain ⟨rfl, rfl⟩ := Conversion.toParameter_eq_error hfault
  obtain ⟨parameter, hparameter, hnumber⟩ := Option.map_eq_some_iff.mp (not_not.mp hfloat)
  rw [← hnode] at hknown ⊢
  exact ⟨wire, hmem, Scene.brings_of_sourceType? hnamed htype hport,
    .parameter name htarget hknown hparameter hnumber, by simp⟩

/-- A parameter fails to convert only if a wire into it is to blame. -/
lemma failsOnly_param (name : String) (index : Option String) :
    FailsOnly scope.scene.Explains (scope.param name index).outcome := by
  have hwires : FailsOnly scope.scene.Explains scope.parameterWires.outcome := by
    unfold parameterWires
    rw [Traced.outcome_bind, Traced.outcome_foldlM]
    refine FailsOnly.bind (FailsOnly.foldlM (fun chosen item hitem => ?_) _) fun _ => FailsOnly.ok _
    exact failsOnly_addParameterWire hnamed hknown hitem chosen
  unfold param
  cases scope.type.parameter? name with
  | none => exact (failsOnly_undeclaredParameter scope name).explained _
  | some parameter =>
    dsimp only
    cases parameter.type with
    | array =>
      show FailsOnly _ (scope.arrayParameter name index).outcome
      unfold arrayParameter
      rw [Traced.outcome_bind, Traced.outcome_liftM]
      refine ((failsOnly_arrays scope).explained _).bind fun arrays => ?_
      unfold readArray
      split
      · exact FailsOnly.ok _
      · exact FailsOnly.ok _
      · exact FailsOnly.ok _
    | string => exact FailsOnly.ok _
    | float | int | vec4 =>
      dsimp only
      unfold numericParameter
      simp only [Traced.outcome_bind]
      refine (hwires.bind fun wires => failsOnly_readNumber scope wires name parameter).bind
        fun expr => ?_
      cases index with
      | none => exact FailsOnly.ok _
      | some index => exact FailsOnly.ok _

/-- Whatever conversion a template needs and cannot have, a wire is to blame. -/
lemma failsOnly_render (template : String) :
    FailsOnly scope.scene.Explains (scope.render template).outcome :=
  Template.failsOnly_render (failsOnly_input hnamed hknown)
    (fun port => FailsOnly.of_exists_ok (exists_output scope port)) (failsOnly_param hnamed hknown)
    (fun _ => FailsOnly.ok _) (FailsOnly.ok _) template

/-- Selected lanes fail to convert only if a wire is to blame. -/
lemma failsOnly_swizzleCode : FailsOnly scope.scene.Explains scope.swizzleCode.outcome := by
  rw [outcome_swizzleCode]
  refine (failsOnly_input hnamed hknown "in").bind fun _ => ?_
  exact ((failsOnly_swizzleShown scope).explained _).bind fun _ => FailsOnly.ok _

/-- A template fails to convert only if a wire is to blame. -/
lemma failsOnly_templateCode : FailsOnly scope.scene.Explains scope.templateCode.outcome := by
  unfold templateCode
  rw [Traced.outcome_bind, Traced.outcome_liftM]
  refine ((failsOnly_arrayDeclarations scope).explained _).bind fun declarations => ?_
  rw [Traced.outcome_bind]
  exact (failsOnly_render hnamed hknown scope.type.mainCode).bind fun _ => FailsOnly.ok _

/-- The code of a node fails to convert only if a wire is to blame. -/
lemma failsOnly_emit : FailsOnly scope.scene.Explains scope.emit.outcome := by
  have hcopy : ∀ ports, FailsOnly scope.scene.Explains (scope.copyUniforms ports).outcome :=
    fun ports => FailsOnly.of_exists_ok (exists_copyUniforms scope ports)
  unfold emit
  cases scope.type.emitter scope.scene.settings with
  | nothing => exact FailsOnly.ok _
  | audioFile =>
    dsimp only
    rw [Traced.outcome_bind]
    exact (hcopy _).bind fun _ => FailsOnly.ok _
  | audioAnalyzer =>
    dsimp only
    rw [Traced.outcome_bind, Traced.outcome_liftM]
    refine ((failsOnly_bands _ _ _).explained _).bind fun bands => ?_
    rw [Traced.outcome_bind]
    exact (hcopy _).bind fun _ => FailsOnly.ok _
  | swizzle =>
    dsimp only
    rw [Traced.outcome_bind]
    exact (failsOnly_swizzleCode hnamed hknown).bind fun _ => FailsOnly.ok _
  | template =>
    dsimp only
    rw [Traced.outcome_bind]
    exact (failsOnly_templateCode hnamed hknown).bind fun _ => FailsOnly.ok _

/-- The block of a node fails to convert only if a wire is to blame. -/
lemma failsOnly_body : FailsOnly scope.scene.Explains scope.body.outcome := by
  unfold body
  rw [Traced.outcome_bind]
  refine (failsOnly_emit hnamed hknown).bind fun code => ?_
  cases code with
  | none => exact FailsOnly.ok _
  | some code =>
    dsimp only
    rw [Traced.outcome_bind, Traced.outcome_liftM]
    exact ((failsOnly_renameAll _ _).explained _).bind fun _ => FailsOnly.ok _

/-- The helpers of a node fail to convert only if a wire is to blame. -/
lemma failsOnly_helperCode : FailsOnly scope.scene.Explains scope.helperCode.outcome := by
  unfold helperCode
  cases scope.type.helperTemplate? with
  | none => exact FailsOnly.ok _
  | some template =>
    dsimp only
    rw [Traced.outcome_bind]
    refine (failsOnly_render hnamed hknown template).bind fun rendered => ?_
    rw [Traced.outcome_bind, Traced.outcome_liftM]
    exact ((failsOnly_renameAll _ _).explained _).bind fun _ => FailsOnly.ok _

end Blamed

end Scope

/-! ### The sections of a shader -/

namespace Scene

variable {scene : Scene}

section Sections

variable (hnamed : scene.IsNamed)

include hnamed

/-- What is explained for scopes is explained for the scopes of a scene. -/
lemma failsOnly_of_of? {α : Type} {f : Scope → Except Fault α}
    (h : ∀ scope : Scope, scope.scene.IsNamed →
      scope.scene.typeOf? scope.node.id = some scope.type →
        FailsOnly scope.scene.Explains (f scope))
    {id : String} {scope : Scope} (hof : Scope.of? scene id = some scope) :
    FailsOnly scene.Explains (f scope) := by
  have hknown := typeOf?_of_of? hof
  rw [← Scope.id_of_of? hof] at hknown
  obtain ⟨node, type, -, -, rfl⟩ := Scope.of?_eq_some_iff.mp hof
  exact h _ hnamed hknown

/-- The plan of helper names fails to convert only if a wire is to blame. -/
lemma failsOnly_plan : FailsOnly scene.Explains scene.plan.outcome := by
  rw [plan_eq, Traced.outcome_foldlM]
  refine FailsOnly.foldlM (fun plan users husers => ?_) Table.empty
  obtain ⟨member, -, rfl⟩ := mem_usersByType_iff.mp husers
  have hmem : ∀ user ∈ scene.helperUsers.filter member.sameType, user ∈ scene.helperUsers :=
    fun _ => List.mem_of_mem_filter
  generalize scene.helperUsers.filter member.sameType = group at hmem
  unfold planType
  cases group with
  | nil => exact FailsOnly.ok _
  | cons first others =>
    dsimp only
    rw [Traced.outcome_bind, Traced.outcome_mapM]
    refine FailsOnly.bind (FailsOnly.mapM fun user huser => ?_) fun _ => FailsOnly.ok _
    obtain ⟨-, hof, -⟩ := mem_helperUsers_iff.mp (hmem user huser)
    unfold HelperUser.variant
    rw [Traced.outcome_bind]
    refine FailsOnly.bind ?_ fun _ => FailsOnly.ok _
    exact failsOnly_of_of? hnamed (f := fun scope => (scope.render user.template).outcome)
      (fun _ hnamed hknown => Scope.failsOnly_render hnamed hknown user.template) hof

omit hnamed in
/-- The declarations of outputs convert nothing, so no wire is to blame. -/
lemma failsOnly_declarations : FailsOnly scene.Explains scene.declarations.outcome := by
  unfold declarations
  rw [Traced.outcome_bind, Traced.outcome_foldlM]
  refine FailsOnly.bind (FailsOnly.foldlM (fun declared node _ => ?_) []) fun declared => ?_
  · unfold declareNode
    split
    · exact FailsOnly.ok _
    · dsimp only
      split
      · exact FailsOnly.ok _
      · rw [Traced.outcome_bind, Traced.outcome_liftM]
        exact ((failsOnly_outputNames _ _ _).explained _).bind fun _ => FailsOnly.ok _
  · rw [Traced.outcome_foldlM]
    refine FailsOnly.foldlM (fun declared wire _ => ?_) declared
    unfold declareSource
    split
    · split
      · exact FailsOnly.ok _
      · exact FailsOnly.ok _
    · exact FailsOnly.ok _

lemma failsOnly_blocks : FailsOnly scene.Explains scene.blocks.outcome := by
  unfold blocks
  rw [Traced.outcome_bind, Traced.outcome_mapM]
  refine FailsOnly.bind (FailsOnly.mapM fun id _ => ?_) fun _ => FailsOnly.ok _
  unfold block?
  cases hof : Scope.of? scene id with
  | none =>
    cases scene.node? id with
    | none => exact FailsOnly.ok _
    | some node => exact FailsOnly.ok _
  | some scope =>
    dsimp only
    rw [Traced.outcome_bind]
    refine (failsOnly_of_of? hnamed (fun _ => Scope.failsOnly_body) hof).bind fun code => ?_
    cases code with
    | none => exact FailsOnly.ok _
    | some code =>
      dsimp only
      split
      · exact FailsOnly.ok _
      · exact FailsOnly.ok _

lemma failsOnly_helpers : FailsOnly scene.Explains scene.helpers.outcome := by
  unfold helpers
  rw [Traced.outcome_bind, Traced.outcome_mapM]
  refine FailsOnly.bind (FailsOnly.mapM fun scope hscope => ?_) fun _ => FailsOnly.ok _
  obtain ⟨id, -, hof⟩ := List.mem_filterMap.mp hscope
  exact failsOnly_of_of? hnamed (fun _ => Scope.failsOnly_helperCode) hof

lemma failsOnly_program : FailsOnly scene.Explains scene.program.outcome := by
  unfold program
  rw [Traced.outcome_bind]
  refine failsOnly_declarations.bind fun declarations => ?_
  rw [Traced.outcome_bind]
  refine (failsOnly_blocks hnamed).bind fun blocks => ?_
  rw [Traced.outcome_bind]
  exact (failsOnly_helpers hnamed).bind fun _ => FailsOnly.ok _

/-! ### The final color -/

omit hnamed in
/-- An output that counts as a truth is declared as one. -/
lemma exists_output_of_outputType {type : NodeType} {name : String}
    (h : type.outputType name = .bool) :
    ∃ output, type.output? name = some output ∧ output.type = .bool := by
  unfold NodeType.outputType at h
  cases houtput : type.output? name with
  | none =>
    rw [houtput] at h
    cases h
  | some output =>
    rw [houtput] at h
    exact ⟨output, rfl, h⟩

omit hnamed in
/-- The last wire into the shown sink is to blame if it carries a truth. -/
lemma failsOnly_sinkColor {sink : String} (hsink : scene.sink? = some sink) :
    FailsOnly scene.Explains (scene.sinkColor sink).outcome := by
  unfold sinkColor
  split
  · exact FailsOnly.error trivial
  next type htype =>
  dsimp only
  split
  · exact FailsOnly.ok _
  next wire port hlast =>
  split
  next sourceType name hsource hlookup =>
    intro fault hfault
    obtain ⟨rfl, hbool⟩ := Conversion.toColor_eq_error hfault
    obtain ⟨hmem, rfl, hwire⟩ := isLastInto_of_getLast? hlast
    refine ⟨wire, hmem, ?_, .color hsink htype hwire, by simp⟩
    obtain ⟨node, hnode, hfind⟩ := Option.bind_eq_some_iff.mp hsource
    exact ⟨node, sourceType, hnode, hfind, Or.inl (exists_output_of_outputType hbool)⟩
  · exact FailsOnly.ok _

omit hnamed in
/-- Without a sink, only outputs are shown that can be converted. -/
lemma failsOnly_colorFrom? {p : PortType → Bool} (hp : p .bool = false) (ids : List String) :
    FailsOnly scene.Explains (scene.colorFrom? p ids) := by
  induction ids with
  | nil => exact FailsOnly.ok _
  | cons id rest ih =>
    unfold colorFrom?
    refine FailsOnly.bind ?_ fun outputs => ?_
    · unfold shownOutputs
      split
      · exact ((failsOnly_outputNames _ _ _).explained _).bind fun _ => FailsOnly.ok _
      · exact FailsOnly.ok _
    · split
      · next type name houtput =>
        have hmem := List.mem_filter.mp (mem_of_preferredOutput houtput)
        have hbool : type ≠ .bool := by
          rintro rfl
          rw [hp] at hmem
          exact Bool.false_ne_true hmem.2
        refine FailsOnly.bind ?_ fun _ => FailsOnly.ok _
        exact FailsOnly.of_exists_ok (Conversion.exists_toColor hbool name)
      · exact ih

omit hnamed in
/-- The final color fails to convert only if a wire is to blame. -/
lemma failsOnly_finalColor : FailsOnly scene.Explains scene.finalColor.outcome := by
  unfold finalColor
  cases hsink : scene.sink? with
  | some sink =>
    dsimp only
    rw [Traced.outcome_bind]
    exact (failsOnly_sinkColor hsink).bind fun _ => FailsOnly.ok _
  | none =>
    dsimp only
    unfold fallbackColor
    rw [Traced.outcome_bind, Traced.outcome_liftM]
    refine (failsOnly_colorFrom? rfl _).bind fun first => ?_
    cases first with
    | some color => exact FailsOnly.ok _
    | none =>
      dsimp only
      rw [Traced.outcome_bind, Traced.outcome_liftM]
      refine (failsOnly_colorFrom? rfl _).bind fun second => ?_
      cases second with
      | some color => exact FailsOnly.ok _
      | none => exact FailsOnly.ok _

end Sections

end Scene

/-! ### Whole compilations -/

namespace Request

/-- A scene is made without conversion. -/
lemma failsOnly_scene (request : Request) : FailsOnly Fault.IsOther request.scene := by
  have hwith : ∀ uniforms, FailsOnly Fault.IsOther (request.sceneWith uniforms) := fun uniforms =>
    (Variables.failsOnly_generate _ _ _).bind fun _ => FailsOnly.ok _
  cases huniforms : request.uniforms with
  | some table =>
    rw [scene_of_named huniforms]
    exact hwith table
  | none =>
    rw [scene_of_allocated huniforms]
    exact (Uniform.failsOnly_allocate _ _ _).bind hwith

/-- The fault is explained by a scene of the request. -/
def Explains (request : Request) (fault : Fault) : Prop :=
  ∃ scene, request.IsScene scene ∧ scene.Explains fault

/-- Names for helpers do not change what a request asks for. -/
lemma IsScene.withRenames {request : Request} {scene : Scene} (h : request.IsScene scene)
    (renames : Table (Table String)) : request.IsScene (scene.withRenames renames) :=
  ⟨h.graph, h.catalog, h.order, h.settings, h.named, h.uniforms⟩

/-- The variables of the scene of a request are those of its graph. -/
lemma IsScene.isNamed {request : Request} {scene : Scene} (h : request.IsScene scene) :
    scene.IsNamed := by
  unfold Scene.IsNamed
  rw [h.graph, h.catalog, h.settings]
  exact h.named

/-- Planning, generation and the final color fail only with what a scene explains. -/
lemma failsOnly_shaderOf {request : Request} {scene : Scene} (hscene : request.IsScene scene) :
    FailsOnly request.Explains (request.shaderOf scene).outcome := by
  have hexplained : ∀ {α : Type} {scene : Scene} {outcome : Except Fault α},
      request.IsScene scene → FailsOnly scene.Explains outcome →
        FailsOnly request.Explains outcome :=
    fun hscene h => h.mono fun _ hfault => ⟨_, hscene, hfault⟩
  unfold shaderOf
  rw [Traced.outcome_bind]
  refine FailsOnly.bind ?_ fun renames => ?_
  · unfold plan
    cases request.renames with
    | some renames => exact FailsOnly.ok _
    | none => exact hexplained hscene (Scene.failsOnly_plan hscene.isNamed)
  have hnamed := hscene.withRenames renames
  rw [Traced.outcome_bind]
  refine (hexplained hnamed (Scene.failsOnly_program hnamed.isNamed)).bind fun program => ?_
  rw [Traced.outcome_bind]
  refine (hexplained hnamed Scene.failsOnly_finalColor).bind fun color => ?_
  rw [Traced.outcome_bind, Traced.outcome_liftM]
  refine (hexplained hscene ((Uniform.failsOnly_records _ _ _ _ _).explained scene)).bind ?_
  exact fun _ => FailsOnly.ok _

/-- When a conversion stops a compilation, a wire is to blame. -/
lemma exists_blames_of_compile {request : Request} {source target : PortType}
    {node : Option String}
    (h : (compile request).outcome = .error (.conversion source target node)) :
    ∃ scene wire, request.IsScene scene ∧ scene.Blames source target node wire := by
  rw [outcome_compile, outcome_shader] at h
  rcases bind_eq_error_iff.mp h with h | ⟨scene, hscene, h⟩
  · have hother := failsOnly_scene request _ h
    cases hother
  · obtain ⟨scene', hscene', wire, hwire⟩ := failsOnly_shaderOf (isScene_of_scene hscene) _ h
    exact ⟨scene', wire, hscene', hwire⟩

/-- A failed conversion stops a compilation only where a wire carries a truth to something else, or
something else to a truth; so it never does where no wire comes from a truth or leads to one. -/
theorem conversion_faults_blamed (request : Request) :
    (∀ source target node,
      (compile request).outcome = .error (.conversion source target node) →
        ∃ scene wire, request.IsScene scene ∧ scene.Blames source target node wire) ∧
    ((∀ scene, request.IsScene scene → scene.WiresNoTruth) → ∀ source target node,
      (compile request).outcome ≠ .error (.conversion source target node)) := by
  refine ⟨fun source target node => exists_blames_of_compile, fun hfree source target node h => ?_⟩
  obtain ⟨scene, wire, hscene, hblames⟩ := exists_blames_of_compile h
  obtain ⟨hbrings, hexpects⟩ := hfree scene hscene wire hblames.mem
  have hsource : source ≠ .bool := by
    rintro rfl
    exact hbrings hblames.brings
  have htarget : target ≠ .bool := by
    rintro rfl
    exact hexpects node hblames.expects
  exact hsource (hblames.truth.mpr htarget)

/-- A test that is wired to a gate.  The gate does not run, and only its helpers read the wire. -/
def gatedTest (port : String) : Request where
  graph :=
    { nodes := [⟨"t", "test", Table.empty, Table.empty⟩, ⟨"g", "gate", Table.empty, Table.empty⟩]
      wires := [⟨"t", port, "g", .port "x"⟩] }
  catalog := ⟨Table.ofList
    [("test",
      { id := "test", displayName := "Test", category := "Logic", inputs := []
        outputs := [⟨"flag", .bool, none⟩, ⟨"level", .float, none⟩], parameters := Table.empty
        mainCode := "$output.level = 1.0;", functions := none, description := "" }),
     ("gate",
      { id := "gate", displayName := "Gate", category := "Logic", inputs := [⟨"x", .float, none⟩]
        outputs := [⟨"out", .float, none⟩], parameters := Table.empty
        mainCode := "$output.out = level();"
        functions := some "float level() \x7b return $input.x; \x7d", description := "" })]⟩
  settings := {}
  order := ["t"]
  uniforms := none
  renames := none

/-- The one wire of the graph carries a number from the test to the gate. -/
lemma wiresNoTruth_gatedTest {scene : Scene} (h : (gatedTest "level").IsScene scene) :
    scene.WiresNoTruth := by
  intro wire hwire
  have htypes : ∀ id type, scene.typeOf? id = some type →
      type ∈ (gatedTest "level").catalog.types.values := by
    intro id type htype
    obtain ⟨node, -, hfind⟩ := Option.bind_eq_some_iff.mp htype
    rw [h.catalog] at hfind
    exact List.mem_map.mpr ⟨_, Table.mem_entries_of_find? hfind, rfl⟩
  rw [h.graph] at hwire
  obtain rfl := List.mem_singleton.mp hwire
  constructor
  · rintro ⟨node, type, hnode, hfind, ⟨output, houtput, hbool⟩ | ⟨-, hbool, -⟩⟩
    · have hport : ∀ type ∈ (gatedTest "level").catalog.types.values,
          (type.output? "level").all (fun output => output.type != .bool) = true := by decide
      have hlevel := hport type (htypes _ _ (Option.bind_eq_some_iff.mpr ⟨node, hnode, hfind⟩))
      rw [houtput, Option.all_some, hbool] at hlevel
      cases hlevel
    · cases hbool
  · have hinputs : ∀ type ∈ (gatedTest "level").catalog.types.values,
        type.inputs.all (fun port => port.type != .bool) = true := by decide
    have hends : ∀ expected node, scene.Expects ⟨"t", "level", "g", .port "x"⟩ expected node →
        expected ≠ .bool := by
      intro expected node hexpects
      cases hexpects with
      | input name _ known declared =>
        have hall := List.all_eq_true.mp (hinputs _ (htypes _ _ known)) _
          (List.mem_of_find?_eq_some declared)
        exact bne_iff_ne.mp hall
      | parameter => simp
      | color => simp
    exact fun node hexpects => hends _ node hexpects rfl

/-- A truth stops the planning of names, and the wire to the gate is to blame; a number does not. -/
theorem conversion_faults_blamed_gatedTest :
    (compile (gatedTest "flag")).outcome = .error (.conversion .bool .float (some "g")) ∧
    (∃ scene wire, (gatedTest "flag").IsScene scene ∧
      scene.Blames .bool .float (some "g") wire) ∧
    ∀ source target node,
      (compile (gatedTest "level")).outcome ≠ .error (.conversion source target node) := by
  have hfound : failedConversion? (compile (gatedTest "flag")).outcome =
      some (.bool, .float, some "g") := by decide +kernel
  have hfault := failedConversion?_eq_some_iff.mp hfound
  exact ⟨hfault, (conversion_faults_blamed (gatedTest "flag")).1 _ _ _ hfault,
    (conversion_faults_blamed (gatedTest "level")).2 fun _ => wiresNoTruth_gatedTest⟩

end Request

end ShaderLoom
