import ShaderLoom.FinalColor
import ShaderLoom.Program
import ShaderLoom.Proofs.CharacterClasses
import ShaderLoom.Proofs.OutputVariables

/-!
# Declared outputs

Every output that a node of known type exposes is declared once, under its variable, and nothing
else is declared.  The type of the declaration is the type that every reader of the variable takes
it to have: the wires that lead to inputs and parameters, the sink, and the color that is shown
without a sink.
-/

namespace ShaderLoom

/-! ### Lines of declarations -/

/-- The text consists of the given lines. -/
structure IsLines (text : String) (lines : List String) : Prop where
  text_eq : text = "\n".intercalate lines
  unbroken : ∀ line ∈ lines, '\n' ∉ line.toList

/-- A line of code declares one variable with one type. -/
lemma Declaration.text_injective : Function.Injective Declaration.text := by
  rintro ⟨type, name⟩ ⟨type', name'⟩ h
  have hplain : ∀ type : PortType, ∀ c ∈ type.keyword.toList, (c != ' ') = true := by
    have hall : ∀ type : PortType, type.keyword.toList.all (fun c => c != ' ') = true := by
      intro type
      cases type <;> decide
    exact fun type => List.all_eq_true.mp (hall type)
  have hkeyword : ∀ type type' : PortType, type.keyword = type'.keyword → type = type' := by
    intro type type' heq
    cases type <;> cases type' <;> simp_all [PortType.keyword]
  have hspace : ∀ rest : List Char, Text.NotStarting (fun c => c != ' ') (' ' :: rest) :=
    fun rest => Text.notStarting_cons.mpr rfl
  have hchars := congrArg String.toList h
  simp only [Declaration.text, String.toList_append, List.append_assoc] at hchars
  -- the keyword ends at the first blank, and the zero is known by the type
  obtain ⟨htype, hrest⟩ := Text.run_unique hchars (hplain type) (hspace _) (hplain type') (hspace _)
  have hsame := hkeyword type type' (String.toList_inj.mp htype)
  subst hsame
  have hname := List.append_cancel_right (List.append_cancel_left hrest)
  rw [String.toList_inj.mp hname]

/-! ### Declaring the outputs of one node -/

/-- A variable is declared exactly if a declaration has its name. -/
lemma isDeclared_iff {declared : List Declaration} {name : String} :
    isDeclared declared name = true ↔ name ∈ declared.map Declaration.name := by
  simp [isDeclared]

/-- No variable is declared twice. -/
lemma nodup_names_declareOutputs (type : NodeType) (table : Table String) (ports : List String)
    {declared : List Declaration} (h : (declared.map Declaration.name).Nodup) :
    ((declareOutputs type table declared ports).map Declaration.name).Nodup := by
  induction ports generalizing declared with
  | nil => exact h
  | cons port ports ih =>
    unfold declareOutputs
    split
    · exact ih h
    · next name _ =>
      refine ih ?_
      split
      · exact h
      · next hnew =>
        rw [List.map_append, List.nodup_append]
        refine ⟨h, List.nodup_singleton _, fun a ha b hb heq => hnew ?_⟩
        rw [List.map_singleton, List.mem_singleton] at hb
        rw [heq, hb] at ha
        exact isDeclared_iff.mpr ha

/-- The declarations of a node's outputs are added, provided that a name stands for one declaration
only. -/
lemma mem_declareOutputs_iff {P : Declaration → Prop}
    (hP : ∀ d d', P d → P d' → d.name = d'.name → d = d') {type : NodeType} {table : Table String}
    {ports : List String} {declared : List Declaration} (hdeclared : ∀ d ∈ declared, P d)
    (hports : ∀ port ∈ ports, ∀ name, table.find? port = some name →
      P ⟨type.outputType port, name⟩) {d : Declaration} :
    d ∈ declareOutputs type table declared ports ↔
      d ∈ declared ∨ ∃ port ∈ ports, table.find? port = some d.name ∧
        d.type = type.outputType port := by
  induction ports generalizing declared with
  | nil => simp [declareOutputs]
  | cons port ports ih =>
    have hrest : ∀ other ∈ ports, ∀ name, table.find? other = some name →
        P ⟨type.outputType other, name⟩ :=
      fun other hother => hports other (List.mem_cons_of_mem port hother)
    unfold declareOutputs
    cases hfind : table.find? port with
    | none =>
      dsimp only
      rw [ih hdeclared hrest]
      simp [hfind]
    | some name =>
      dsimp only
      have hnew := hports port List.mem_cons_self name hfind
      by_cases hold : isDeclared declared name = true
      · -- the name is declared already, and so by this very declaration
        obtain ⟨other, hother, hname⟩ := List.mem_map.mp (isDeclared_iff.mp hold)
        have heq : other = ⟨type.outputType port, name⟩ :=
          hP _ _ (hdeclared other hother) hnew hname
        rw [if_pos hold, ih hdeclared hrest]
        constructor
        · rintro (hmem | ⟨other', hother', hrest'⟩)
          · exact Or.inl hmem
          · exact Or.inr ⟨other', List.mem_cons_of_mem port hother', hrest'⟩
        · rintro (hmem | ⟨other', hother', hfind', htype'⟩)
          · exact Or.inl hmem
          · rcases List.mem_cons.mp hother' with rfl | hother'
            · left
              rw [hfind] at hfind'
              cases hfind'
              cases d
              cases htype'
              exact heq ▸ hother
            · exact Or.inr ⟨other', hother', hfind', htype'⟩
      · have hdeclared' : ∀ d ∈ declared ++ [⟨type.outputType port, name⟩], P d := by
          intro d hd
          rcases List.mem_append.mp hd with hd | hd
          · exact hdeclared d hd
          · rw [List.mem_singleton.mp hd]
            exact hnew
        rw [if_neg hold, ih hdeclared' hrest, List.mem_append, List.mem_singleton, or_assoc]
        refine or_congr_right ?_
        constructor
        · rintro (rfl | ⟨other', hother', hrest'⟩)
          · exact ⟨port, List.mem_cons_self, hfind, rfl⟩
          · exact ⟨other', List.mem_cons_of_mem port hother', hrest'⟩
        · rintro ⟨other', hother', hfind', htype'⟩
          rcases List.mem_cons.mp hother' with rfl | hother'
          · left
            rw [hfind] at hfind'
            cases hfind'
            cases d
            cases htype'
            rfl
          · exact Or.inr ⟨other', hother', hfind', htype'⟩

namespace Scene

variable {scene : Scene}

/-- The ids of nodes differ, and every output has a variable of its own. -/
structure OutputsNamed (scene : Scene) : Prop where
  ids : (scene.graph.nodes.map Node.id).Nodup
  generated : Variables.generate scene.graph scene.catalog scene.settings =
    .ok scene.variableNames
  distinct : ∀ node port node' port' name, scene.variableNames.lookup node port = some name →
    scene.variableNames.lookup node' port' = some name → node = node' ∧ port = port'

/-- The node exposes the output, and its type is known. -/
def Exposes (scene : Scene) (node : Node) (type : NodeType) (port : String) : Prop :=
  scene.graph.Exposes scene.catalog scene.settings node type port

/-- The declaration of an output of a node. -/
def outputDeclaration (node : Node) (type : NodeType) (port : String) : Declaration :=
  ⟨type.outputType port, Identifier.outputVariable node.id port⟩

/-- The declaration of an output is one line. -/
lemma newline_not_mem_outputDeclaration (node : Node) (type : NodeType) (port : String) :
    '\n' ∉ (outputDeclaration node type port).text.toList := by
  have hclean : ∀ name : String, '\n' ∉ (Identifier.clean name).toList := by
    intro name hmem
    exact absurd (Identifier.allWord_clean name '\n' hmem) (by decide)
  have hkeyword : ∀ type : PortType, '\n' ∉ type.keyword.toList := by
    intro type
    cases type <;> decide
  have hzero : ∀ type : PortType, '\n' ∉ type.zeroText.toList := by
    intro type
    cases type <;> decide
  unfold Declaration.text outputDeclaration Identifier.outputVariable
  simp only [String.toList_append, List.mem_append, hclean, hkeyword, hzero]
  decide

/-- The declaration is that of an output which the node exposes. -/
def DeclaresOutput (scene : Scene) (node : Node) (declaration : Declaration) : Prop :=
  ∃ type port, scene.Exposes node type port ∧ declaration = outputDeclaration node type port

namespace OutputsNamed

variable (h : scene.OutputsNamed)

include h

/-- A variable belongs to an output that is exposed. -/
lemma lookup_eq_some_iff {id port name : String} :
    scene.variableNames.lookup id port = some name ↔
      ∃ node type, scene.Exposes node type port ∧ node.id = id ∧
        name = Identifier.outputVariable id port :=
  Variables.lookup_eq_some_iff h.ids h.generated

/-- The type of a node that exposes an output is the one that its id leads to. -/
lemma typeOf?_of_exposes {node : Node} {type : NodeType} {port : String}
    (hexposes : scene.Exposes node type port) : scene.typeOf? node.id = some type := by
  obtain ⟨hnode, htype, -⟩ := hexposes
  unfold Scene.typeOf? Scene.node?
  rw [Graph.node?_of_mem h.ids hnode]
  exact htype

/-- A variable is declared for one output of one node. -/
lemma declaration_unique {node node' : Node} {d d' : Declaration}
    (hd : scene.DeclaresOutput node d) (hd' : scene.DeclaresOutput node' d')
    (hname : d.name = d'.name) : d = d' := by
  obtain ⟨type, port, hexposes, rfl⟩ := hd
  obtain ⟨type', port', hexposes', rfl⟩ := hd'
  have hlookup := h.lookup_eq_some_iff.mpr ⟨node, type, hexposes, rfl, rfl⟩
  have hlookup' := h.lookup_eq_some_iff.mpr ⟨node', type', hexposes', rfl, rfl⟩
  have hname' : Identifier.outputVariable node.id port =
      Identifier.outputVariable node'.id port' := hname
  rw [← hname'] at hlookup'
  obtain ⟨hid, rfl⟩ := h.distinct _ _ _ _ _ hlookup hlookup'
  have hnode := List.inj_on_of_nodup_map h.ids hexposes.1 hexposes'.1 hid
  subst hnode
  have htype := hexposes.2.1.symm.trans hexposes'.2.1
  cases htype
  rfl

/-! ### Declaring the outputs of all nodes -/

/-- Declaring a node adds the declarations of its outputs. -/
lemma declareNode_outcome {node : Node} (hnode : node ∈ scene.graph.nodes)
    {declared : List Declaration} (hdeclared : ∀ d ∈ declared, ∃ node, scene.DeclaresOutput node d)
    (hnames : (declared.map Declaration.name).Nodup) :
    ∃ declared', (scene.declareNode declared node).outcome = .ok declared' ∧
      (declared'.map Declaration.name).Nodup ∧
      ∀ d, d ∈ declared' ↔ d ∈ declared ∨ scene.DeclaresOutput node d := by
  cases htype : scene.catalog.find? node.type with
  | none =>
    refine ⟨declared, ?_, hnames, fun d => ?_⟩
    · unfold Scene.declareNode
      rw [htype]
      rfl
    · refine ⟨Or.inl, fun hd => hd.resolve_right ?_⟩
      rintro ⟨type, port, hexposes, -⟩
      rw [hexposes.2.1] at htype
      cases htype
  | some type =>
    obtain ⟨ports, hports, htable⟩ := Variables.ports_of_mem h.ids h.generated hnode htype
    have hdeclares : ∀ d, scene.DeclaresOutput node d ↔
        ∃ port ∈ ports, (scene.variableNames.ports node.id).find? port = some d.name ∧
          d.type = type.outputType port := by
      intro d
      rw [htable]
      constructor
      · rintro ⟨type', port, ⟨-, htype', ports', hports', hport⟩, rfl⟩
        rw [htype] at htype'
        cases htype'
        rw [hports] at hports'
        cases hports'
        refine ⟨port, hport, ?_, rfl⟩
        rw [Variables.find?_ofNode, if_pos hport]
        rfl
      · rintro ⟨port, hport, hname, hdtype⟩
        rw [Variables.find?_ofNode, if_pos hport] at hname
        refine ⟨type, port, ⟨hnode, htype, ports, hports, hport⟩, ?_⟩
        cases d
        cases hdtype
        cases hname
        rfl
    unfold Scene.declareNode
    rw [htype]
    dsimp only
    split
    · -- there are no variables, hence no outputs
      next hempty =>
      rw [Bool.and_eq_true] at hempty
      have hnone : ∀ port, (scene.variableNames.ports node.id).find? port = none := by
        intro port
        unfold Table.find?
        rw [List.isEmpty_iff.mp hempty.1]
        rfl
      refine ⟨declared, rfl, hnames, fun d => ⟨Or.inl, fun hd => hd.resolve_right fun hd => ?_⟩⟩
      obtain ⟨port, -, hname, -⟩ := (hdeclares d).mp hd
      rw [hnone] at hname
      cases hname
    · refine ⟨declareOutputs type (scene.variableNames.ports node.id) declared ports, ?_,
        nodup_names_declareOutputs _ _ _ hnames, fun d => ?_⟩
      · rw [hports]
        rfl
      · rw [hdeclares]
        refine mem_declareOutputs_iff (P := fun d => ∃ node, scene.DeclaresOutput node d) ?_
          hdeclared ?_
        · rintro d d' ⟨node, hd⟩ ⟨node', hd'⟩
          exact h.declaration_unique hd hd'
        · intro port hport name hname
          exact ⟨node, (hdeclares _).mpr ⟨port, hport, hname, rfl⟩⟩

/-- Declaring several nodes adds the declarations of their outputs. -/
lemma foldlM_declareNode_outcome {nodes : List Node}
    (hnodes : ∀ node ∈ nodes, node ∈ scene.graph.nodes) {declared : List Declaration}
    (hdeclared : ∀ d ∈ declared, ∃ node, scene.DeclaresOutput node d)
    (hnames : (declared.map Declaration.name).Nodup) :
    ∃ declared', (nodes.foldlM scene.declareNode declared).outcome = .ok declared' ∧
      (declared'.map Declaration.name).Nodup ∧
      ∀ d, d ∈ declared' ↔ d ∈ declared ∨ ∃ node ∈ nodes, scene.DeclaresOutput node d := by
  induction nodes generalizing declared with
  | nil => exact ⟨declared, rfl, hnames, by simp⟩
  | cons node nodes ih =>
    obtain ⟨middle, hmiddle, hnames', hmem⟩ :=
      h.declareNode_outcome (hnodes node List.mem_cons_self) hdeclared hnames
    have hdeclared' : ∀ d ∈ middle, ∃ node, scene.DeclaresOutput node d := by
      intro d hd
      rcases (hmem d).mp hd with hd | hd
      · exact hdeclared d hd
      · exact ⟨node, hd⟩
    obtain ⟨declared', houtcome, hnames'', hmem'⟩ := ih
      (fun other hother => hnodes other (List.mem_cons_of_mem node hother)) hdeclared' hnames'
    refine ⟨declared', ?_, hnames'', fun d => ?_⟩
    · rw [List.foldlM_cons, Traced.outcome_bind, hmiddle]
      exact houtcome
    · rw [hmem', hmem, or_assoc]
      simp

/-- The first pass over the nodes declares exactly the outputs. -/
lemma exists_declared :
    ∃ declared, (scene.graph.nodes.foldlM scene.declareNode []).outcome = .ok declared ∧
      (declared.map Declaration.name).Nodup ∧
      ∀ d, d ∈ declared ↔ ∃ node, scene.DeclaresOutput node d := by
  have hnil : ∀ d ∈ ([] : List Declaration), ∃ node, scene.DeclaresOutput node d := by
    intro d hd
    cases hd
  obtain ⟨declared, houtcome, hnames, hmem⟩ := h.foldlM_declareNode_outcome
    (fun _ hnode => hnode) hnil List.nodup_nil
  refine ⟨declared, houtcome, hnames, fun d => (hmem d).trans ?_⟩
  constructor
  · rintro (hd | ⟨node, -, hd⟩)
    · cases hd
    · exact ⟨node, hd⟩
  · rintro ⟨node, hd⟩
    obtain ⟨type, port, hexposes, -⟩ := id hd
    exact Or.inr ⟨node, hexposes.1, hd⟩

/-- The second pass, over the wires, finds every source declared. -/
lemma foldlM_declareSource {declared : List Declaration}
    (hdeclared : ∀ d, d ∈ declared ↔ ∃ node, scene.DeclaresOutput node d) (wires : List Wire) :
    wires.foldlM scene.declareSource declared = pure declared := by
  induction wires with
  | nil => rfl
  | cons wire wires ih =>
    have hstep : scene.declareSource declared wire = pure declared := by
      unfold Scene.declareSource
      split
      · next name type hlookup _ =>
        obtain ⟨node, type', hexposes, hid, hname⟩ := h.lookup_eq_some_iff.mp hlookup
        have hmem := (hdeclared _).mpr ⟨node, type', wire.sourcePort, hexposes, rfl⟩
        have hold : isDeclared declared name = true := by
          rw [isDeclared_iff, hname, ← hid]
          exact List.mem_map_of_mem hmem
        rw [if_pos hold]
      · rfl
    rw [List.foldlM_cons, hstep, pure_bind, ih]

/-- The declarations of a scene are exactly those of the outputs. -/
lemma exists_declarations :
    ∃ declared, scene.declarations.outcome = .ok declared ∧
      (declared.map Declaration.name).Nodup ∧
      ∀ d, d ∈ declared ↔ ∃ node, scene.DeclaresOutput node d := by
  obtain ⟨declared, hnodes, hnames, hmem⟩ := h.exists_declared
  refine ⟨declared, ?_, hnames, hmem⟩
  unfold Scene.declarations
  rw [Traced.outcome_bind, hnodes]
  exact congrArg Traced.outcome (h.foldlM_declareSource hmem scene.graph.wires)

/-! ### Readers of variables -/

/-- A wire takes an exposed output to have the type that it is declared with. -/
lemma sourceType?_of_exposes {node : Node} {type : NodeType} {port : String}
    (hexposes : scene.Exposes node type port) :
    Scope.sourceType? scene node.id type port = some (type.outputType port) := by
  have hlookup := h.lookup_eq_some_iff.mpr ⟨node, type, hexposes, rfl, rfl⟩
  unfold Scope.sourceType? NodeType.outputType
  rw [hlookup]
  cases houtput : type.output? port with
  | some output => rfl
  | none =>
    -- only an analyzer exposes outputs that its type does not declare
    have hanalyzer : type.id = scene.settings.audioAnalyzerType := by
      obtain ⟨-, -, ports, hports, hport⟩ := hexposes
      by_contra hne
      unfold Node.outputNames at hports
      rw [if_neg hne] at hports
      cases hports
      obtain ⟨output, houtput', hname⟩ := List.mem_map.mp hport
      have := List.find?_eq_none.mp houtput output houtput'
      simp [hname] at this
    rw [hanalyzer]
    simp

/-- Whatever variable is looked up, the node behind it is known by its id. -/
lemma exists_exposes_of_lookup {id port name : String}
    (hlookup : scene.variableNames.lookup id port = some name) :
    ∃ node type, scene.Exposes node type port ∧ node.id = id ∧ scene.typeOf? id = some type ∧
      name = (outputDeclaration node type port).name := by
  obtain ⟨node, type, hexposes, rfl, rfl⟩ := h.lookup_eq_some_iff.mp hlookup
  exact ⟨node, type, hexposes, rfl, h.typeOf?_of_exposes hexposes, rfl⟩

/-- The outputs of a node that could be shown are declared as they are shown. -/
lemma exists_shownOutputs (id : String) :
    ∃ outputs, scene.shownOutputs id = .ok outputs ∧
      ∀ output ∈ outputs, ∃ node, scene.DeclaresOutput node ⟨output.2.1, output.2.2⟩ := by
  unfold Scene.shownOutputs Scene.typeOf?
  cases hnode : scene.node? id with
  | none => exact ⟨[], rfl, fun _ houtput => nomatch houtput⟩
  | some node =>
    rw [Option.bind_some]
    cases htype : scene.catalog.find? node.type with
    | none => exact ⟨[], rfl, fun _ houtput => nomatch houtput⟩
    | some type =>
      have hid := Graph.id_of_node? hnode
      subst hid
      have hmem := Graph.mem_of_node? hnode
      obtain ⟨ports, hports, htable⟩ := Variables.ports_of_mem h.ids h.generated hmem htype
      dsimp only
      rw [hports]
      refine ⟨_, rfl, fun output houtput => ?_⟩
      obtain ⟨port, hport, heq⟩ := List.mem_filterMap.mp houtput
      rw [htable, Variables.find?_ofNode, if_pos hport] at heq
      cases heq
      exact ⟨node, type, port, ⟨hmem, htype, ports, hports, hport⟩, rfl⟩

end OutputsNamed

/-! ### The sections of a program -/

/-- A program is put together from declarations, blocks and helpers. -/
lemma exists_of_program {program : Program}
    (h : scene.program.outcome = .ok program) :
    ∃ declared blocks helpers, scene.declarations.outcome = .ok declared ∧
      scene.blocks.outcome = .ok blocks ∧ scene.helpers.outcome = .ok helpers ∧
      program = {
        declarations := "\n".intercalate (declared.map Declaration.text)
        mainCode := "\n".intercalate (blocks.flatMap Block.lines)
        helpers := "\n\n".intercalate
          (helpers.map fun helper => String.ofList helper.text) } := by
  unfold Scene.program at h
  rw [Traced.outcome_bind] at h
  obtain ⟨declared, hdeclared, h⟩ := bind_eq_ok_iff.mp h
  rw [Traced.outcome_bind] at h
  obtain ⟨blocks, hblocks, h⟩ := bind_eq_ok_iff.mp h
  rw [Traced.outcome_bind] at h
  obtain ⟨helpers, hhelpers, h⟩ := bind_eq_ok_iff.mp h
  rw [Traced.outcome_pure] at h
  exact ⟨declared, blocks, helpers, hdeclared, hblocks, hhelpers, (Except.ok.inj h).symm⟩

/-- Declarations of outputs stand in their section one below the other. -/
lemma isLines_declarations {declared : List Declaration}
    (hdeclared : scene.declarations.outcome = .ok declared)
    (houtputs : ∀ d ∈ declared, ∃ node, scene.DeclaresOutput node d) {program : Program}
    (hprogram : scene.program.outcome = .ok program) :
    IsLines program.declarations (declared.map Declaration.text) := by
  obtain ⟨declared', _, _, hdeclared', -, -, rfl⟩ := exists_of_program hprogram
  cases hdeclared.symm.trans hdeclared'
  refine ⟨rfl, fun line hline => ?_⟩
  obtain ⟨d, hd, rfl⟩ := List.mem_map.mp hline
  obtain ⟨node, type, port, -, rfl⟩ := houtputs d hd
  exact newline_not_mem_outputDeclaration node type port

/-- The declarations of a program are those of the outputs, one line each. -/
lemma OutputsNamed.exists_lines (h : scene.OutputsNamed) {program : Program}
    (hprogram : scene.program.outcome = .ok program) :
    ∃ declared : List Declaration, scene.declarations.outcome = .ok declared ∧
      IsLines program.declarations (declared.map Declaration.text) ∧
      (declared.map Declaration.name).Nodup ∧
      ∀ d, d ∈ declared ↔ ∃ node, scene.DeclaresOutput node d := by
  obtain ⟨declared, hdeclared, hnames, hmem⟩ := h.exists_declarations
  exact ⟨declared, hdeclared,
    isLines_declarations hdeclared (fun d => (hmem d).mp) hprogram, hnames, hmem⟩

/-! ### Readers of outputs -/

/-- The declarations of a scene are those of its outputs, and readers agree with them. -/
structure OutputsDeclared (scene : Scene) (declared : List Declaration) : Prop where
  /-- Every node of known type has outputs, and each has a variable. -/
  named : ∀ node ∈ scene.graph.nodes, ∀ type, scene.catalog.find? node.type = some type →
    ∃ ports, node.outputNames type scene.settings = .ok ports ∧
      ∀ port ∈ ports, scene.variableNames.lookup node.id port =
        some (outputDeclaration node type port).name
  /-- Exactly the outputs are declared. -/
  mem_iff : ∀ d, d ∈ declared ↔ ∃ node, scene.DeclaresOutput node d
  /-- Every variable is declared once. -/
  names_nodup : (declared.map Declaration.name).Nodup
  /-- The section of the declarations has one line for each of them, with the type, the variable and
  the zero of the type. -/
  written : ∀ program, scene.program.outcome = .ok program →
    IsLines program.declarations (declared.map fun d =>
      d.type.keyword ++ " " ++ d.name ++ " = " ++ d.type.zeroText ++ ";")
  /-- No line is written twice. -/
  lines_nodup : (declared.map Declaration.text).Nodup
  /-- All declarations are made in the pass over the nodes. -/
  nodes_pass : (scene.graph.nodes.foldlM scene.declareNode []).outcome = .ok declared
  /-- The pass over the wires adds nothing and remarks on nothing. -/
  wires_pass : scene.graph.wires.foldlM scene.declareSource declared = pure declared
  /-- A wire takes the variable that it reads to have its declared type. -/
  read_by_wire : ∀ wire ∈ scene.graph.wires, ∀ name,
    scene.variableNames.lookup wire.source wire.sourcePort = some name →
      ∃ type portType, scene.typeOf? wire.source = some type ∧
        Scope.sourceType? scene wire.source type wire.sourcePort = some portType ∧
        ⟨portType, name⟩ ∈ declared
  /-- So does the sink. -/
  read_by_sink : ∀ sink type wire port name, scene.typeOf? sink = some type →
    ((scene.graph.dataWires sink).filter fun (_, port) => port = scene.colorPort type).getLast? =
      some (wire, port) →
    scene.variableNames.lookup wire.source wire.sourcePort = some name →
      ∃ portType, scene.sinkColor sink = Traced.lift (Conversion.toColor name portType) ∧
        ⟨portType, name⟩ ∈ declared
  /-- So does the color that is shown without a sink. -/
  shown : ∀ id, ∃ outputs, scene.shownOutputs id = .ok outputs ∧
    ∀ output ∈ outputs, ⟨output.2.1, output.2.2⟩ ∈ declared

/-- When every output has a variable of its own, exactly the outputs are declared, each once and
with the type that all its readers take it to have. -/
theorem outputs_declared_with_read_types (h : scene.OutputsNamed) :
    ∃ declared, scene.declarations.outcome = .ok declared ∧ scene.OutputsDeclared declared := by
  obtain ⟨declared, hnodes, hnames, hmem⟩ := h.exists_declared
  have hwires := h.foldlM_declareSource hmem scene.graph.wires
  have hlines : (declared.map Declaration.text).Nodup :=
    (hnames.of_map _).map Declaration.text_injective
  have hdeclared : scene.declarations.outcome = .ok declared := by
    unfold Scene.declarations
    rw [Traced.outcome_bind, hnodes]
    exact congrArg Traced.outcome hwires
  refine ⟨declared, hdeclared, ?_, hmem, hnames, ?_, hlines, hnodes, hwires, ?_, ?_, ?_⟩
  · intro node hnode type htype
    obtain ⟨ports, hports, -⟩ := Variables.ports_of_mem h.ids h.generated hnode htype
    refine ⟨ports, hports, fun port hport => ?_⟩
    exact h.lookup_eq_some_iff.mpr
      ⟨node, type, ⟨hnode, htype, ports, hports, hport⟩, rfl, rfl⟩
  · exact fun program => isLines_declarations hdeclared fun d => (hmem d).mp
  · intro wire _ name hlookup
    obtain ⟨node, type, hexposes, hid, htype, rfl⟩ := h.exists_exposes_of_lookup hlookup
    refine ⟨type, _, htype, ?_, (hmem _).mpr ⟨node, type, _, hexposes, rfl⟩⟩
    rw [← hid]
    exact h.sourceType?_of_exposes hexposes
  · intro sink type wire port name hsink hlast hlookup
    obtain ⟨node, sourceType, hexposes, -, htype, rfl⟩ := h.exists_exposes_of_lookup hlookup
    refine ⟨_, ?_, (hmem _).mpr ⟨node, sourceType, _, hexposes, rfl⟩⟩
    unfold Scene.sinkColor
    rw [hsink]
    dsimp only
    rw [hlast]
    dsimp only
    rw [htype, hlookup]
  · intro id
    obtain ⟨outputs, hshown, houtputs⟩ := h.exists_shownOutputs id
    exact ⟨outputs, hshown, fun output houtput => (hmem _).mpr (houtputs output houtput)⟩

/-- An analyzer with two bands, one of which is the final color. -/
def shownBand : Scene :=
  let graph : Graph :=
    { nodes :=
        [⟨"a", "audio-analyzer", Table.ofList [("frequencyBands",
            .list [.list [.int 20, .int 120], .list [.int 120, .int 300]])], Table.empty⟩,
         ⟨"s", "final-output", Table.empty, Table.empty⟩]
      wires := [⟨"a", "band1", "s", .port "in"⟩] }
  let catalog : Catalog := ⟨Table.ofList
    [("audio-analyzer",
      { id := "audio-analyzer", displayName := "Analyzer", category := "Audio", inputs := []
        outputs := [], parameters := Table.empty, mainCode := "", functions := none
        description := "" }),
     ("final-output",
      { id := "final-output", displayName := "Output", category := "Output"
        inputs := [⟨"in", .vec3, none⟩], outputs := [], parameters := Table.empty
        mainCode := "", functions := none, description := "" })]⟩
  { graph, catalog
    variableNames := (Variables.generate graph catalog {}).toOption.getD Table.empty
    order := ["a", "s"]
    uniforms := Table.empty
    renames := Table.empty
    settings := {} }

lemma outputsNamed_shownBand : shownBand.OutputsNamed where
  ids := by decide
  generated := eq_ok_of_isSome_toOption Table.empty (by decide +kernel)
  distinct := Variables.unique_of_nodup_names (by decide +kernel)

/-- The band is declared and shown as a float, though the type of the node does not name it. -/
theorem outputs_declared_with_read_types_shownBand :
    shownBand.OutputsNamed ∧
      shownBand.variableNames.lookup "a" "band1" = some "node_a_band1" ∧
      ∃ declared, shownBand.declarations.outcome = .ok declared ∧
        shownBand.OutputsDeclared declared :=
  ⟨outputsNamed_shownBand, by decide +kernel,
    outputs_declared_with_read_types outputsNamed_shownBand⟩

end Scene

end ShaderLoom
