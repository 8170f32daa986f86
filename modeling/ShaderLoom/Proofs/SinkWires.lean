import ShaderLoom.Proofs.DeliveredInputs
import ShaderLoom.Proofs.ShownColor

/-!
# The wire that a sink shows

An input of a node takes the last wire that can be used, and passes over the wires behind it that
cannot.  The color of a sink is read from the last wire into its color port, whether it can be used
or not.  So the two agree exactly when nothing is wired behind the last wire that can be used; else
the sink is black, although there is something to show.
-/

namespace ShaderLoom

/-- At most one wire is the last one into an input of a node. -/
lemma Graph.IsLastInto.unique {graph : Graph} {wire wire' : Wire} {port : String}
    (h : graph.IsLastInto wire port) (h' : graph.IsLastInto wire' port)
    (hnode : wire.node = wire'.node) : wire = wire' := by
  have hlast := Scene.getLast?_of_isLastInto h
  rw [hnode, Scene.getLast?_of_isLastInto h'] at hlast
  cases hlast
  rfl

namespace Scene

variable {scene : Scene} {sink : String} {wire : Wire}

/-! ### What a wire carries -/

/-- The wire carries a variable of the type: its source is known, and its output has the type and
the variable. -/
structure Carries (scene : Scene) (wire : Wire) (type : PortType) (name : String) : Prop where
  known : ∃ sourceType, scene.typeOf? wire.source = some sourceType ∧
    Scope.sourceType? scene wire.source sourceType wire.sourcePort = some type
  named : scene.variableNames.lookup wire.source wire.sourcePort = some name

/-- An output that has a type for its readers has it for the final color, too. -/
lemma outputType_of_sourceType? {id port : String} {type : NodeType} {portType : PortType}
    (h : Scope.sourceType? scene id type port = some portType) :
    type.outputType port = portType := by
  unfold Scope.sourceType? at h
  unfold NodeType.outputType
  split at h
  · next output houtput =>
    cases h
    rw [houtput]
    rfl
  · next hnone =>
    split at h
    · cases h
      rw [hnone]
      rfl
    · cases h

/-- An output with a variable has a type for its readers. -/
lemma sourceType?_of_lookup (hnamed : scene.IsNamed) {id port name : String} {type : NodeType}
    (htype : scene.typeOf? id = some type)
    (hlookup : scene.variableNames.lookup id port = some name) :
    Scope.sourceType? scene id type port = some (type.outputType port) := by
  obtain ⟨node, hnode, hfind⟩ := Option.bind_eq_some_iff.mp htype
  obtain ⟨ports, hports, hports'⟩ := Variables.exists_lookup_of_node? hnamed hnode hfind
  unfold Scope.sourceType? NodeType.outputType
  cases houtput : type.output? port with
  | some output => rfl
  | none =>
    -- only an analyzer exposes outputs that its type does not declare
    have hanalyzer : type.id = scene.settings.audioAnalyzerType := by
      by_contra hne
      have hport : port ∈ ports := by
        by_contra hport
        rw [hports', if_neg hport] at hlookup
        cases hlookup
      unfold Node.outputNames at hports
      rw [if_neg hne] at hports
      cases hports
      obtain ⟨output, hmem, hname⟩ := List.mem_map.mp hport
      have hother := List.find?_eq_none.mp houtput output hmem
      simp [hname] at hother
    rw [hlookup, hanalyzer]
    simp

/-- The color of a sink is what the last wire into its color port carries, and black if it carries
nothing. -/
lemma outcome_sinkColor_of_isLastInto (hnamed : scene.IsNamed) {sinkType : NodeType}
    (hsink : scene.typeOf? wire.node = some sinkType)
    (hlast : scene.graph.IsLastInto wire (scene.colorPort sinkType)) :
    (∀ type name, scene.Carries wire type name →
      (scene.sinkColor wire.node).outcome = Conversion.toColor name type) ∧
    ((∀ type name, ¬scene.Carries wire type name) →
      (scene.sinkColor wire.node).outcome = .ok black) := by
  have hread := getLast?_of_isLastInto hlast
  unfold sinkColor
  rw [hsink]
  dsimp only
  rw [hread]
  dsimp only
  cases htype : scene.typeOf? wire.source with
  | none =>
    refine ⟨fun type name hcarries => ?_, fun _ => rfl⟩
    obtain ⟨sourceType, hsome, -⟩ := hcarries.known
    rw [htype] at hsome
    cases hsome
  | some sourceType =>
    cases hname : scene.variableNames.lookup wire.source wire.sourcePort with
    | none =>
      refine ⟨fun type name hcarries => ?_, fun _ => rfl⟩
      have hsome := hcarries.named
      rw [hname] at hsome
      cases hsome
    | some name =>
      constructor
      · intro type name' hcarries
        obtain ⟨sourceType', hsome, hsource⟩ := hcarries.known
        rw [htype] at hsome
        cases hsome
        have hnamed' := hcarries.named
        rw [hname] at hnamed'
        cases hnamed'
        rw [← outputType_of_sourceType? hsource]
        rfl
      · intro hnone
        exact absurd ⟨⟨sourceType, htype, sourceType?_of_lookup hnamed htype hname⟩, hname⟩
          (hnone (sourceType.outputType wire.sourcePort) name)

/-- A sink without a wire into its color port is black. -/
lemma outcome_sinkColor_of_unwired {sinkType : NodeType}
    (hsink : scene.typeOf? sink = some sinkType)
    (h : ∀ wire, wire.node = sink → ¬scene.graph.IsLastInto wire (scene.colorPort sinkType)) :
    (scene.sinkColor sink).outcome = .ok black := by
  unfold sinkColor
  rw [hsink]
  dsimp only
  split
  · rfl
  · next wire port hwire =>
    obtain ⟨-, hnode, hlast⟩ := isLastInto_of_getLast? hwire
    exact absurd hlast (h wire hnode)

end Scene

namespace Conversion

lemma mem_operand {c : Char} {expr : String} (h : c ∈ expr.toList) : c ∈ (operand expr).toList := by
  unfold operand
  split
  · exact h
  · simp [h]

/-- A color is written with the characters of what it is made of. -/
lemma mem_of_toColor {c : Char} {expr text : String} {type : PortType} (h : c ∈ expr.toList)
    (htext : toColor expr type = .ok text) : c ∈ text.toList := by
  have hoperand := mem_operand h
  cases type <;> cases htext <;> simp [h, hoperand]

/-- No variable is shown as black. -/
lemma toColor_outputVariable_ne_black (id port : String) (type : PortType) :
    toColor (Identifier.outputVariable id port) type ≠ .ok black := by
  intro hblack
  have hmem : 'n' ∈ (Identifier.outputVariable id port).toList := by
    unfold Identifier.outputVariable
    simp
  have hmem' := mem_of_toColor hmem hblack
  revert hmem'
  decide

end Conversion

namespace Scope

variable {scope : Scope} {wire : Wire} {port : String} {delivery : Delivery}

/-! ### Two readers of one port -/

/-- A wire that can be used carries what it delivers. -/
lemma Usable.carries (h : scope.Usable wire port delivery) :
    scope.scene.Carries wire delivery.source delivery.name := ⟨h.known, h.named⟩

/-- A wire into a declared input can be used if it carries something. -/
lemma exists_usable_of_carries {input : Port} (hinput : scope.type.input? port = some input)
    (hnode : wire.node = scope.node.id) (htarget : wire.target = .port port) {type : PortType}
    {name : String} (h : scope.scene.Carries wire type name) :
    ∃ delivery, scope.Usable wire port delivery :=
  ⟨⟨name, type, input.type⟩, hnode, htarget, ⟨input, hinput, rfl⟩, h.known, h.named⟩

/-- If the last wire into an input can be used, it is the last one that can. -/
lemma Usable.lastUsable (h : scope.Usable wire port delivery)
    (hlast : scope.scene.graph.IsLastInto wire port) :
    scope.LastUsable scope.scene.graph.wires wire port delivery := by
  obtain ⟨before, after, hwires, -, hafter⟩ := hlast
  exact ⟨before, after, hwires, h, fun other hother delivery' husable =>
    hafter other hother (husable.node.trans h.node.symm) husable.target⟩

/-- At most one wire is the last one that can be used for an input. -/
lemma LastUsable.unique {wires : List Wire} {wire' : Wire} {delivery' : Delivery}
    (h : scope.LastUsable wires wire port delivery)
    (h' : scope.LastUsable wires wire' port delivery') : wire = wire' ∧ delivery = delivery' := by
  obtain ⟨before, after, rfl, husable, hafter⟩ := h
  obtain ⟨before', after', heq, husable', hafter'⟩ := h'
  have hsame : wire = wire' := by
    -- whichever of the two comes first would be followed by the other
    rcases List.append_eq_append_iff.mp heq with ⟨between, rfl, hrest⟩ | ⟨between, rfl, hrest⟩
    · cases between with
      | nil => exact (List.cons.inj hrest).1
      | cons next between =>
        obtain ⟨rfl, rfl⟩ := List.cons.inj hrest
        exact absurd husable' (hafter wire' (by simp) delivery')
    · cases between with
      | nil => exact (List.cons.inj hrest).1.symm
      | cons next between =>
        obtain ⟨rfl, rfl⟩ := List.cons.inj hrest
        exact absurd husable (hafter' wire (by simp) delivery)
  subst hsame
  exact ⟨rfl, (husable.unique husable').2⟩

/-- The last wire that can be used sets the input. -/
lemma LastUsable.find?_inputs (h : scope.LastUsable scope.scene.graph.wires wire port delivery)
    {table : Table String} (htable : scope.inputs.outcome = .ok table) :
    ∃ expr, scope.deliver delivery = .ok expr ∧ table.find? port = some expr := by
  rw [outcome_inputs] at htable
  rcases scope.foldlM_followWire scope.scene.graph.wires with
    ⟨-, wired, hwired, hdelivers⟩ | ⟨_, _, -, herror⟩
  · rw [hwired, ok_bind] at htable
    cases htable
    rw [find?_filledUp]
    cases hfind : wired.find? port with
    | some expr =>
      obtain ⟨wire', delivery', hlast, hexpr⟩ := hdelivers.found port expr hfind
      obtain ⟨-, rfl⟩ := h.unique hlast
      exact ⟨expr, hexpr, rfl⟩
    | none =>
      obtain ⟨before, after, hwires, husable, -⟩ := h
      exact absurd husable (hdelivers.missing port hfind wire (by simp [hwires]) delivery)
  · rw [herror] at htable
    cases htable

/-- The color of a sink is what the last wire into its color port delivers, and black if this wire
cannot be used. -/
lemma sinkColor_cases (hnamed : scope.scene.IsNamed) {sink : String}
    (hscope : of? scope.scene sink = some scope) {input : Port}
    (hinput : scope.type.input? (scope.scene.colorPort scope.type) = some input) :
    (∃ wire delivery, scope.scene.graph.IsLastInto wire (scope.scene.colorPort scope.type) ∧
        scope.Usable wire (scope.scene.colorPort scope.type) delivery ∧
        (scope.scene.sinkColor sink).outcome =
          Conversion.toColor delivery.name delivery.source) ∨
      (∀ wire delivery, scope.scene.graph.IsLastInto wire (scope.scene.colorPort scope.type) →
        ¬scope.Usable wire (scope.scene.colorPort scope.type) delivery) ∧
        (scope.scene.sinkColor sink).outcome = .ok black := by
  have hsink := Scene.typeOf?_of_of? hscope
  have hid := id_of_of? hscope
  by_cases hwired : ∃ wire, wire.node = sink ∧
      scope.scene.graph.IsLastInto wire (scope.scene.colorPort scope.type)
  · obtain ⟨wire, rfl, hlast⟩ := hwired
    obtain ⟨hcarried, hblack⟩ := Scene.outcome_sinkColor_of_isLastInto hnamed hsink hlast
    by_cases hcarries : ∃ type name, scope.scene.Carries wire type name
    · obtain ⟨type, name, hcarries⟩ := hcarries
      obtain ⟨-, -, -, htarget, -⟩ := id hlast
      obtain ⟨delivery, husable⟩ := exists_usable_of_carries hinput hid.symm htarget hcarries
      exact Or.inl ⟨wire, delivery, hlast, husable, hcarried _ _ husable.carries⟩
    · refine Or.inr ⟨fun other delivery hother husable => hcarries ?_, hblack ?_⟩
      · obtain rfl := hother.unique hlast (husable.node.trans hid)
        exact ⟨_, _, husable.carries⟩
      · exact fun type name h => hcarries ⟨type, name, h⟩
  · refine Or.inr ⟨fun wire delivery hlast husable => hwired ?_, ?_⟩
    · exact ⟨wire, husable.node.trans hid, hlast⟩
    · exact Scene.outcome_sinkColor_of_unwired hsink fun wire hnode hlast =>
        hwired ⟨wire, hnode, hlast⟩

end Scope

/-- What a sink shows of the wires into its color port.  Of these, any other node would take the
last one that can be used.  The sink takes it exactly when no other wire into the port is listed
behind it, and is black otherwise.  Where no wire into the port can be used, it is black as well. -/
theorem Scene.sinkColor_of_lastUsable {scene : Scene} (hnamed : scene.IsNamed) {sink : String}
    {scope : Scope} (hscope : Scope.of? scene sink = some scope) :
    (∀ wire delivery,
      scope.LastUsable scene.graph.wires wire (scene.colorPort scope.type) delivery →
      (∀ table, scope.inputs.outcome = .ok table → ∃ expr, scope.deliver delivery = .ok expr ∧
        table.find? (scene.colorPort scope.type) = some expr) ∧
      ((scene.sinkColor sink).outcome = Conversion.toColor delivery.name delivery.source ↔
        scene.graph.IsLastInto wire (scene.colorPort scope.type)) ∧
      ((scene.sinkColor sink).outcome = .ok black ↔
        ¬scene.graph.IsLastInto wire (scene.colorPort scope.type))) ∧
    ∀ input, scope.type.input? (scene.colorPort scope.type) = some input →
      scope.NoneUsable scene.graph.wires (scene.colorPort scope.type) →
        (scene.sinkColor sink).outcome = .ok black := by
  obtain rfl : scope.scene = scene := by
    obtain ⟨node, type, -, -, rfl⟩ := Scope.of?_eq_some_iff.mp hscope
    rfl
  constructor
  · intro wire delivery hlastUsable
    obtain ⟨before, after, -, husable, -⟩ := id hlastUsable
    obtain ⟨input, hinput, -⟩ := husable.declared
    have hcolor : Conversion.toColor delivery.name delivery.source ≠ .ok black := by
      rw [Variables.eq_of_lookup hnamed husable.named]
      exact Conversion.toColor_outputVariable_ne_black _ _ _
    refine ⟨fun table htable => hlastUsable.find?_inputs htable, ?_⟩
    rcases Scope.sinkColor_cases hnamed hscope hinput with
      ⟨last, delivery', hlast, husable', houtcome⟩ | ⟨hnone, houtcome⟩
    · obtain ⟨rfl, rfl⟩ := hlastUsable.unique (husable'.lastUsable hlast)
      rw [houtcome]
      exact ⟨iff_of_true rfl hlast, iff_of_false hcolor (not_not_intro hlast)⟩
    · have hnot := fun hlast => hnone wire delivery hlast husable
      rw [houtcome]
      exact ⟨iff_of_false hcolor.symm hnot, iff_of_true rfl hnot⟩
  · intro input hinput hnone
    rcases Scope.sinkColor_cases hnamed hscope hinput with
      ⟨last, delivery, hlast, husable, -⟩ | ⟨-, houtcome⟩
    · obtain ⟨before, after, hwires, -⟩ := hlast
      exact absurd husable (hnone last (by simp [hwires]) delivery)
    · exact houtcome

namespace Scene

/-- A color is wired to a sink, and behind it a node that does not exist. -/
def strayWires : List Wire :=
  [⟨"p", "tint", "s", .port "in"⟩, ⟨"ghost", "out", "s", .port "in"⟩]

/-- The stray wire cannot be used, and so the color is what another node would take from the wires.
The sink is black. -/
theorem sinkColor_of_lastUsable_strayWires :
    ∃ scope wire delivery, (probed ["s"] strayWires).IsNamed ∧
      Scope.of? (probed ["s"] strayWires) "s" = some scope ∧
      scope.LastUsable strayWires wire "in" delivery ∧ delivery.name = "node_p_tint" ∧
      ((probed ["s"] strayWires).sinkColor "s").outcome = .ok black := by
  have hnamed : (probed ["s"] strayWires).IsNamed :=
    eq_ok_of_isSome_toOption Table.empty (by decide +kernel)
  obtain ⟨scope, hscope⟩ : ∃ scope, Scope.of? (probed ["s"] strayWires) "s" = some scope :=
    Option.isSome_iff_exists.mp (by decide +kernel)
  have hport : (Scope.of? (probed ["s"] strayWires) "s").map (fun scope =>
      (probed ["s"] strayWires).colorPort scope.type) = some "in" := by decide +kernel
  have hused : (Scope.of? (probed ["s"] strayWires) "s").bind (fun scope =>
      (scope.use? ⟨"p", "tint", "s", .port "in"⟩).map fun use => (use.1, use.2.name)) =
        some ("in", "node_p_tint") := by decide +kernel
  have hstray : (Scope.of? (probed ["s"] strayWires) "s").map (fun scope =>
      (scope.use? ⟨"ghost", "out", "s", .port "in"⟩).isNone) = some true := by decide +kernel
  rw [hscope, Option.map_some, Option.some.injEq] at hport hstray
  rw [hscope, Option.bind_some] at hused
  obtain ⟨⟨port, delivery⟩, huse, hname⟩ := Option.map_eq_some_iff.mp hused
  obtain ⟨rfl, hname⟩ := Prod.mk.inj hname
  have hlast : scope.LastUsable strayWires ⟨"p", "tint", "s", .port "in"⟩ "in" delivery := by
    refine ⟨[], _, rfl, Scope.use?_eq_some_iff.mp huse, ?_⟩
    intro wire hwire delivery' husable
    rw [List.mem_singleton.mp hwire] at husable
    rw [Scope.use?_eq_some_iff.mpr husable] at hstray
    cases hstray
  have hbehind : (probed ["s"] strayWires).graph.IsLastInto
      ⟨"ghost", "out", "s", .port "in"⟩ "in" :=
    ⟨[⟨"p", "tint", "s", .port "in"⟩], [], rfl, rfl, fun _ h => absurd h List.not_mem_nil⟩
  refine ⟨scope, _, delivery, hnamed, hscope, hlast, hname, ?_⟩
  have hcolor := (sinkColor_of_lastUsable hnamed hscope).1 _ delivery (hport.symm ▸ hlast)
  rw [hport] at hcolor
  refine hcolor.2.2.mpr fun hfirst => ?_
  have hsame := congrArg Wire.source (hfirst.unique hbehind rfl)
  exact absurd hsame (by decide)

end Scene

end ShaderLoom
