import ShaderLoom.Proofs.Notices
import ShaderLoom.Proofs.WiredParameters
import ShaderLoom.Proofs.WrittenOutputs

/-!
# Audio outputs

The host measures the outputs of audio nodes and hands them to the shader as uniforms.  Three
sections of a shader have to agree on them: the uniforms that are declared, the variables that are
declared for the outputs, and the block of an audio node, which copies the one into the other.  How
many outputs an analyzer has depends on what its author set, and the sections count them one by one.
They all come to the same outputs: no uniform that a block copies is missing, and none is left out
because its node never runs.
-/

namespace ShaderLoom

open Text

/-! ### Code that is kept as it is -/

namespace Text

/-- A single line that begins with a word character. -/
structure IsPlainLine (line : List Char) : Prop where
  unbroken : '\n' ∉ line
  starts : line.head?.any isWord = true

namespace IsPlainLine

variable {line : List Char} (h : IsPlainLine line)

include h

lemma exists_cons : ∃ c rest, line = c :: rest ∧ isWord c = true := by
  have hstarts := h.starts
  cases line with
  | nil => cases hstarts
  | cons c rest => exact ⟨c, rest, rfl, hstarts⟩

/-- The line does not begin with indentation. -/
lemma exists_cons_not_isIndent : ∃ c rest, line = c :: rest ∧ isIndent c = false := by
  obtain ⟨c, rest, hline, hc⟩ := h.exists_cons
  refine ⟨c, rest, hline, Bool.eq_false_iff.mpr fun hindent => ?_⟩
  unfold isIndent at hindent
  rw [Bool.or_eq_true, beq_iff_eq, beq_iff_eq] at hindent
  rcases hindent with rfl | rfl
  · exact absurd hc (by decide)
  · exact absurd hc (by decide)

lemma takeWhile_isIndent : line.takeWhile isIndent = [] := by
  obtain ⟨c, rest, rfl, hc⟩ := h.exists_cons_not_isIndent
  rw [List.takeWhile_cons, hc, if_neg Bool.false_ne_true]

lemma all_isIndent : line.all isIndent = false := by
  obtain ⟨c, rest, rfl, hc⟩ := h.exists_cons_not_isIndent
  rw [List.all_cons, hc, Bool.false_and]

/-- The line is not taken for blank. -/
lemma allBlank_eq_false : allBlank line = false := by
  obtain ⟨c, rest, rfl, hc⟩ := h.exists_cons
  unfold allBlank
  rw [List.all_cons, isBlank_eq_false_of_isWord hc, Bool.false_and]

end IsPlainLine

section PlainLines

variable {texts : List (List Char)} (hne : texts ≠ []) (h : ∀ text ∈ texts, IsPlainLine text)

include hne h

/-- Single lines are found again after they were joined. -/
lemma lines_joinLines_of_plain : lines (joinLines texts) = texts := by
  have hlines : texts.flatMap lines = texts.flatMap fun text => [text] :=
    List.flatMap_congr fun text htext => lines_of_unbroken (h text htext).unbroken
  rw [lines_joinLines hne, hlines, List.flatMap_singleton']

/-- Lines without indentation keep their places. -/
lemma dedent_joinLines_of_plain : dedent (joinLines texts) = joinLines texts := by
  have hcleared : texts.map (fun line => if line.all isIndent then [] else line) = texts := by
    conv_rhs => rw [← List.map_id texts]
    refine List.map_congr_left fun line hline => ?_
    rw [(h line hline).all_isIndent, if_neg Bool.false_ne_true, id]
  have hmargin : sharedIndent (texts.filter (!·.isEmpty)) = [] := by
    obtain ⟨first, hfirst⟩ := List.exists_mem_of_ne_nil texts hne
    obtain ⟨c, rest, hcons, -⟩ := (h first hfirst).exists_cons
    have hkept : first ∈ texts.filter (!·.isEmpty) :=
      List.mem_filter.mpr ⟨hfirst, by rw [hcons]; rfl⟩
    have hprefix := sharedIndent_prefix hkept
    rwa [(h first hfirst).takeWhile_isIndent, List.prefix_nil] at hprefix
  unfold dedent
  dsimp only
  rw [lines_joinLines_of_plain hne h, hcleared, hmargin]
  simp

/-- Nor are they taken for blank. -/
lemma allBlank_joinLines_of_plain : allBlank (joinLines texts) = false := by
  obtain ⟨first, rest, rfl⟩ := List.exists_cons_of_ne_nil hne
  obtain ⟨c, chars, rfl, hc⟩ := (h first List.mem_cons_self).exists_cons
  have hblank := isBlank_eq_false_of_isWord hc
  unfold allBlank joinLines
  cases rest with
  | nil => simp [List.intercalate, hblank]
  | cons second rest => simp [List.intercalate, hblank]

end PlainLines

/-- What stands in joined lines stands in one of them, or ends one. -/
lemma eq_newline_or_mem_of_mem_joinLines {c : Char} {texts : List (List Char)}
    (h : c ∈ joinLines texts) : c = '\n' ∨ ∃ text ∈ texts, c ∈ text := by
  induction texts with
  | nil => cases h
  | cons first rest ih =>
    cases rest with
    | nil =>
      exact Or.inr ⟨first, List.mem_cons_self, by simpa [joinLines, List.intercalate] using h⟩
    | cons second rest =>
      rw [joinLines_cons_cons, List.mem_append, List.mem_cons] at h
      rcases h with h | h | h
      · exact Or.inr ⟨first, List.mem_cons_self, h⟩
      · exact Or.inl h
      · rcases ih h with hnewline | ⟨text, htext, hc⟩
        · exact Or.inl hnewline
        · exact Or.inr ⟨text, List.mem_cons_of_mem first htext, hc⟩

/-- A text without empty lines neither begins nor ends with a newline. -/
lemma trimNewlines_eq_self {text : List Char} (h : [] ∉ lines text) : trimNewlines text = text := by
  obtain ⟨lead, trail, hlead, htrail, htext, -, -⟩ := exists_trimBoth_eq (· == '\n') text
  have hleadNil : lead = [] := by
    cases lead with
    | nil => rfl
    | cons c lead =>
      have hc : c = '\n' := beq_iff_eq.mp (hlead c List.mem_cons_self)
      rw [htext, hc, List.cons_append, lines_newline] at h
      exact absurd List.mem_cons_self h
  have htrailNil : trail = [] := by
    rcases List.eq_nil_or_concat trail with hnil | ⟨start, c, hconcat⟩
    · exact hnil
    · have hc : c = '\n' := beq_iff_eq.mp (htrail c (by rw [hconcat]; simp))
      rw [htext, hconcat, hc, List.concat_eq_append, ← List.append_assoc, ← List.append_assoc,
        lines_append_newline] at h
      exact absurd (List.mem_append_right _ List.mem_cons_self) h
  rw [hleadNil, htrailNil, List.nil_append, List.append_nil] at htext
  exact htext.symm

end Text

namespace Helper

/-- Without a parenthesis there is no call. -/
lemma callAt?_eq_none {name text : List Char} (h : '(' ∉ text) (before : Option Char) :
    callAt? name before text = none := by
  unfold callAt?
  split
  · dsimp only
    split
    · next rest hrest =>
      have hmem : '(' ∈ (text.drop name.length).dropWhile isBlank := by
        rw [hrest]
        exact List.mem_cons_self
      exact absurd (List.mem_of_mem_drop ((List.dropWhile_sublist _).subset hmem)) h
    · rfl
  · rfl

/-- Without a parenthesis no call is replaced. -/
lemma replaceCalls_of_no_call {name text : List Char} {parts : List Part} (h : '(' ∉ text)
    (before : Option Char) : replaceCalls name parts before text = text := by
  induction text generalizing before with
  | nil => rw [replaceCalls]
  | cons c rest ih =>
    rw [replaceCalls, callAt?_eq_none h]
    dsimp only
    rw [ih fun hrest => h (List.mem_cons_of_mem c hrest)]

/-- Code that calls nothing is not touched by renamings. -/
lemma renameAll_of_no_call {renames : List (String × String)} {code code' : List Char}
    (h : '(' ∉ code) (hcode : renameAll renames code = .ok code') : code' = code := by
  refine holds_of_foldlM_eq_ok (P := fun found => found = code) ?_ rfl hcode
  rintro found found' rename - rfl hstep
  unfold renameOne at hstep
  split at hstep
  · cases hstep
    exact replaceCalls_of_no_call h none
  · cases hstep

end Helper

/-! ### Lines that copy uniforms -/

namespace Identifier

/-- The line that copies the uniform of an output into the variable of the output. -/
def copyLine (node port : String) : String :=
  outputVariable node port ++ " = " ++ uniform node port ++ ";"

/-- The only marks in a line that copies a uniform are blanks, the equals sign and the semicolon. -/
lemma not_mem_copyLine {c : Char} (hword : isWord c = false) (hmarks : c ∉ [' ', '=', ';'])
    (node port : String) : c ∉ (copyLine node port).toList := by
  have hequals : " = ".toList = [' ', '=', ' '] := by decide
  have hend : ";".toList = [';'] := by decide
  have hnot : ∀ {word : List Char}, AllWord word → c ∉ word := by
    intro word hall hc
    rw [hall c hc] at hword
    cases hword
  unfold copyLine
  simp only [String.toList_append, List.mem_append, hequals, hend, List.mem_cons, List.not_mem_nil,
    or_false, not_or] at hmarks ⊢
  exact ⟨⟨⟨hnot (allWord_outputVariable node port), hmarks.1, hmarks.2.1, hmarks.1⟩,
    hnot (isName_uniform node port).2⟩, hmarks.2.2⟩

/-- A line that copies a uniform begins with the variable that it assigns. -/
lemma isPlainLine_copyLine (node port : String) : IsPlainLine (copyLine node port).toList where
  unbroken := not_mem_copyLine (by decide) (by decide) node port
  starts := by
    obtain ⟨rest, hrest⟩ := prefix_outputVariable node port
    unfold copyLine
    rw [String.toList_append, String.toList_append, String.toList_append, ← hrest]
    rfl

/-- The lines that copy the uniforms of several outputs. -/
def copyLines (node : String) (ports : List String) : List (List Char) :=
  ports.map fun port => (copyLine node port).toList

variable {node : String} {ports : List String}

lemma isPlainLine_of_mem_copyLines {line : List Char} (h : line ∈ copyLines node ports) :
    IsPlainLine line := by
  obtain ⟨port, -, rfl⟩ := List.mem_map.mp h
  exact isPlainLine_copyLine node port

/-- Lines that copy uniforms call nothing. -/
lemma paren_not_mem_copyLines : '(' ∉ joinLines (copyLines node ports) := by
  intro hmem
  rcases eq_newline_or_mem_of_mem_joinLines hmem with hnewline | ⟨line, hline, hparen⟩
  · exact absurd hnewline (by decide)
  · obtain ⟨port, -, rfl⟩ := List.mem_map.mp hline
    exact not_mem_copyLine (by decide) (by decide) node port hparen

lemma copyLines_ne_nil (h : ports ≠ []) : copyLines node ports ≠ [] :=
  fun hnil => h (List.map_eq_nil_iff.mp hnil)

/-- In a block, the lines that copy uniforms are indented. -/
lemma lines_copyLines (displayName node : String) (ports : List String) :
    Block.lines ⟨displayName, node, copyLines node ports⟩ =
      ["  // Node: " ++ displayName ++ " (" ++ node ++ ")", "  \x7b"] ++
        (ports.map fun port => "    " ++ copyLine node port) ++ ["  \x7d", ""] := by
  have hindented : (copyLines node ports).map (fun line =>
      if allBlank line then "" else "    " ++ String.ofList line) =
        ports.map fun port => "    " ++ copyLine node port := by
    unfold copyLines
    rw [List.map_map]
    refine List.map_congr_left fun port _ => ?_
    rw [Function.comp_apply, (isPlainLine_copyLine node port).allBlank_eq_false,
      if_neg Bool.false_ne_true, String.ofList_toList]
  unfold Block.lines
  rw [hindented]

end Identifier

namespace Scope

variable {scope : Scope} {ports : List String}

/-- The uniforms of outputs are copied line by line, if none of them is missing. -/
lemma copyUniforms_eq_pure
    (hnamed : ∀ port ∈ ports, scope.scene.variableNames.lookup scope.node.id port =
      some (Identifier.outputVariable scope.node.id port))
    (huniform : ∀ port ∈ ports, scope.scene.uniform? scope.node.id port =
      some (Identifier.uniform scope.node.id port)) :
    scope.copyUniforms ports = pure (ports.map (Identifier.copyLine scope.node.id)) := by
  induction ports with
  | nil => rfl
  | cons port ports ih =>
    have hrest := ih (fun other hother => hnamed other (List.mem_cons_of_mem port hother))
      fun other hother => huniform other (List.mem_cons_of_mem port hother)
    rw [copyUniforms, hnamed port List.mem_cons_self]
    dsimp only
    rw [huniform port List.mem_cons_self]
    dsimp only
    rw [hrest]
    rfl

/-- Lines that copy uniforms are not changed on their way into a block. -/
lemma body_of_copyLines (hne : ports ≠ [])
    (hemit : scope.emit =
      pure (some ("\n".intercalate (ports.map (Identifier.copyLine scope.node.id)))))
    {code : Option (List Char)} (hbody : scope.body.outcome = .ok code) :
    code = some (joinLines (Identifier.copyLines scope.node.id ports)) := by
  have hlines : ("\n".intercalate (ports.map (Identifier.copyLine scope.node.id))).toList =
      joinLines (Identifier.copyLines scope.node.id ports) := by
    rw [toList_intercalate_newline, List.map_map]
    rfl
  unfold body at hbody
  rw [hemit, pure_bind] at hbody
  dsimp only at hbody
  -- there is no indentation to remove and no call to rename
  rw [hlines, dedent_joinLines_of_plain (Identifier.copyLines_ne_nil hne)
    fun line => Identifier.isPlainLine_of_mem_copyLines, Traced.outcome_bind,
    Traced.outcome_liftM] at hbody
  obtain ⟨renamed, hrenamed, hbody⟩ := bind_eq_ok_iff.mp hbody
  cases hbody
  rw [Helper.renameAll_of_no_call Identifier.paren_not_mem_copyLines hrenamed]

end Scope

namespace Scene

variable {scene : Scene} {scope : Scope} {ports : List String}

/-- The block of a node that copies uniforms consists of the lines that copy them. -/
lemma block_of_copyLines {id : String} (hof : Scope.of? scene id = some scope) (hne : ports ≠ [])
    (hemit : scope.emit =
      pure (some ("\n".intercalate (ports.map (Identifier.copyLine scope.node.id)))))
    {result : Option Block} (h : (scene.block? id).outcome = .ok result) :
    result = some ⟨scope.type.displayName, id, Identifier.copyLines scope.node.id ports⟩ := by
  have hne' : Identifier.copyLines scope.node.id ports ≠ [] := Identifier.copyLines_ne_nil hne
  have hplain : ∀ line ∈ Identifier.copyLines scope.node.id ports, IsPlainLine line :=
    fun line => Identifier.isPlainLine_of_mem_copyLines
  have hlines := lines_joinLines_of_plain hne' hplain
  have hempty : [] ∉ lines (joinLines (Identifier.copyLines scope.node.id ports)) := by
    rw [hlines]
    intro hmem
    obtain ⟨c, rest, hnil, -⟩ := (hplain [] hmem).exists_cons
    cases hnil
  obtain ⟨code, hbody, rfl⟩ := exists_body_of_block? hof h
  rw [Scope.body_of_copyLines hne hemit hbody, Option.bind_some,
    allBlank_joinLines_of_plain hne' hplain, if_neg Bool.false_ne_true,
    trimNewlines_eq_self hempty, hlines]

/-- The nodes of an order that have a certain block have it once for each of their places. -/
lemma filter_of_mapM_block? {block : Block} (hown : ∀ result,
      (scene.block? block.node).outcome = .ok result → result = some block)
    {order : List String} {found : List (Option Block)}
    (hfound : order.mapM (fun id => (scene.block? id).outcome) = .ok found) :
    (found.filterMap id).filter (fun other => other.node == block.node) =
      List.replicate (order.count block.node) block := by
  induction order generalizing found with
  | nil =>
    cases hfound
    rfl
  | cons first order ih =>
    rw [List.mapM_cons] at hfound
    obtain ⟨result, hresult, hfound⟩ := bind_eq_ok_iff.mp hfound
    obtain ⟨rest, hrest, hfound⟩ := bind_eq_ok_iff.mp hfound
    have hcons : found = result :: rest := (Except.ok.inj hfound).symm
    rw [hcons]
    -- the blocks of other nodes are dropped by the filter
    by_cases hfirst : first = block.node
    · rw [hfirst] at hresult ⊢
      rw [hown result hresult, List.count_cons_self, List.replicate_succ, ← ih hrest]
      simp
    · rw [List.count_cons_of_ne hfirst, ← ih hrest]
      cases result with
      | none => rfl
      | some other =>
        have hother := (of_block? hresult).1
        simp [hother, hfirst]

/-- The blocks of a node are equal, one for each time that it runs. -/
lemma filter_blocks {blocks : List Block} (hblocks : scene.blocks.outcome = .ok blocks)
    (block : Block) (hown : ∀ result, (scene.block? block.node).outcome = .ok result →
      result = some block) :
    blocks.filter (fun other => other.node == block.node) =
      List.replicate (scene.order.count block.node) block := by
  unfold Scene.blocks at hblocks
  rw [Traced.outcome_bind, Traced.outcome_mapM] at hblocks
  obtain ⟨found, hfound, hblocks⟩ := bind_eq_ok_iff.mp hblocks
  cases hblocks
  exact filter_of_mapM_block? hown hfound

end Scene

/-! ### Types of audio nodes -/

/-- The host measures the outputs of the nodes of the type.  The outputs are numbers, and the nodes
need no helpers. -/
structure NodeType.CarriesAudio (type : NodeType) (settings : Settings) : Prop where
  category : type.category = settings.audioCategory
  kind : type.id = settings.audioFileType ∨ type.id = settings.audioAnalyzerType
  sink : type.id ≠ settings.sinkType
  outputs : type.outputs ≠ []
  numbers : ∀ port, type.outputType port = .float
  helpers : type.helperTemplate? = none

/-- The outputs of an audio node: those that its type declares, or two for each of its bands. -/
def Node.Measures (node : Node) (type : NodeType) (settings : Settings) (ports : List String) :
    Prop :=
  type.id = settings.audioFileType ∧ ports = type.outputs.map Port.name ∨
    type.id = settings.audioAnalyzerType ∧
      ∃ bands, node.bands type settings = .ok bands ∧ ports = analyzerPorts bands.length

/-- The nodes of the audio category are those that the settings name, and no analyzer is left
without bands. -/
structure Catalog.MeasuresAudio (catalog : Catalog) (settings : Settings) : Prop where
  kinds : settings.audioFileType ≠ settings.audioAnalyzerType
  types : ∀ id type, catalog.find? id = some type → (type.category = settings.audioCategory ∨
    type.id = settings.audioFileType ∨ type.id = settings.audioAnalyzerType) →
      type.CarriesAudio settings
  bands : ∀ grid, settings.defaultBands.toGrid = .ok grid → grid.rows ≠ []

/-- Bands that are spelled by a value are never none. -/
lemma ne_nil_of_bandsOfValue? {value : Value} {bands : List (List Double)}
    (h : bandsOfValue? value = .ok (some bands)) : bands ≠ [] := by
  unfold bandsOfValue? at h
  split at h
  · next grid _ =>
    split at h
    · next count width hshape =>
      split at h
      · next hcount =>
        cases h
        unfold Grid.rows
        rw [hshape]
        simp only [ne_eq, List.map_eq_nil_iff, List.range_eq_nil]
        omega
      · cases h
    · cases h
  · cases h
  · cases h

namespace Node

variable {node : Node} {type : NodeType} {settings : Settings} {ports : List String}

/-- The bands of an analyzer are never empty, if those of the settings are not. -/
lemma ne_nil_of_firstBands {fallback : Value}
    (hfallback : ∀ grid, fallback.toGrid = .ok grid → grid.rows ≠ []) {values : List Value}
    {bands : List (List Double)} (h : firstBands fallback values = .ok bands) : bands ≠ [] := by
  induction values with
  | nil =>
    unfold firstBands at h
    cases hgrid : fallback.toGrid with
    | ok grid =>
      rw [hgrid] at h
      cases h
      exact hfallback grid hgrid
    | error fault =>
      rw [hgrid] at h
      cases h
  | cons value values ih =>
    unfold firstBands at h
    obtain ⟨found, hfound, h⟩ := bind_eq_ok_iff.mp h
    cases found with
    | none => exact ih h
    | some own =>
      cases h
      exact ne_nil_of_bandsOfValue? hfound

/-- What an audio node exposes is measured. -/
lemma measures_of_outputNames
    (hkind : type.id = settings.audioFileType ∨ type.id = settings.audioAnalyzerType)
    (h : node.outputNames type settings = .ok ports) : node.Measures type settings ports := by
  unfold outputNames at h
  split at h
  · next hanalyzer =>
    obtain ⟨bands, hbands, h⟩ := bind_eq_ok_iff.mp h
    cases h
    exact Or.inr ⟨hanalyzer, bands, hbands, rfl⟩
  · next hanalyzer =>
    cases h
    exact Or.inl ⟨hkind.resolve_right hanalyzer, rfl⟩

namespace Measures

variable (h : node.Measures type settings ports)

include h

/-- An audio node has outputs to measure. -/
lemma ports_ne_nil (houtputs : type.outputs ≠ [])
    (hbands : ∀ grid, settings.defaultBands.toGrid = .ok grid → grid.rows ≠ []) : ports ≠ [] := by
  rcases h with ⟨-, rfl⟩ | ⟨-, bands, hfound, rfl⟩
  · exact fun hnil => houtputs (List.map_eq_nil_iff.mp hnil)
  · have hpos : bands.length ≠ 0 :=
      fun hzero => ne_nil_of_firstBands hbands hfound (List.length_eq_zero_iff.mp hzero)
    unfold analyzerPorts
    simp [hpos]

variable (hkinds : settings.audioFileType ≠ settings.audioAnalyzerType)

include hkinds

/-- The outputs that are measured are all that the node has. -/
lemma outputNames_eq : node.outputNames type settings = .ok ports := by
  unfold outputNames
  rcases h with ⟨hfile, rfl⟩ | ⟨hanalyzer, bands, hbands, rfl⟩
  · rw [if_neg (by rw [hfile]; exact hkinds)]
  · rw [if_pos hanalyzer, hbands]
    rfl

variable (hcarries : type.CarriesAudio settings)

include hcarries

/-- The uniforms are allocated for the outputs that are exposed. -/
lemma audioOutputs_eq : Uniform.audioOutputs node type settings = .ok ports := by
  unfold Uniform.audioOutputs
  rw [if_pos hcarries.category]
  rcases h with ⟨hfile, rfl⟩ | ⟨hanalyzer, bands, hbands, rfl⟩
  · rw [if_pos hfile]
  · rw [if_neg (by rw [hanalyzer]; exact Ne.symm hkinds), if_pos hanalyzer, hbands]
    rfl

end Measures

end Node

/-- The uniforms of the outputs that are exposed are copied. -/
lemma Scope.emit_of_measures {scope : Scope} {ports : List String}
    (hkinds : scope.scene.settings.audioFileType ≠ scope.scene.settings.audioAnalyzerType)
    (hcarries : scope.type.CarriesAudio scope.scene.settings)
    (h : scope.node.Measures scope.type scope.scene.settings ports) :
    scope.emit = do return some ("\n".intercalate (← scope.copyUniforms ports)) := by
  unfold emit NodeType.emitter
  rw [if_neg hcarries.sink]
  rcases h with ⟨hfile, rfl⟩ | ⟨hanalyzer, bands, hbands, rfl⟩
  · rw [if_pos ⟨hcarries.category, hfile⟩]
  · have hnotFile : ¬(scope.type.category = scope.scene.settings.audioCategory ∧
        scope.type.id = scope.scene.settings.audioFileType) := by
      rintro ⟨-, hfile⟩
      exact hkinds (hfile.symm.trans hanalyzer)
    rw [if_neg hnotFile, if_pos ⟨hcarries.category, hanalyzer⟩]
    dsimp only
    rw [hbands]
    rfl

/-! ### Variables that are told apart -/

/-- A name of letters and digits. -/
def IsAlphanumeric (name : String) : Prop := ∀ c ∈ name.toList, c.isAlphanum = true

namespace Identifier

/-- A name of letters and digits is not changed by cleaning. -/
lemma toList_clean_of_isAlphanumeric {name : String} (h : IsAlphanumeric name) :
    (clean name).toList = name.toList := by
  unfold clean
  rw [String.toList_ofList]
  conv_rhs => rw [← List.map_id name.toList]
  refine List.map_congr_left fun c hc => ?_
  unfold cleanChar
  rw [if_pos (h c hc), id]

/-- A name that is put together from an id and a name of letters and digits can be read from behind:
the name is what follows the last underscore. -/
lemma pair_eq_iff {start node name node' name' : String} (hname : IsAlphanumeric name)
    (hname' : IsAlphanumeric name') :
    start ++ clean node ++ "_" ++ clean name = start ++ clean node' ++ "_" ++ clean name' ↔
      clean node = clean node' ∧ name = name' := by
  constructor
  · intro h
    -- a cleaned id may hold underscores, but the name does not
    have hmark : "_".toList = ['_'] := by decide
    have hstop : ∀ rest : List Char, NotStarting Char.isAlphanum ('_' :: rest) :=
      fun rest => notStarting_cons.mpr (by decide)
    have hchars := congrArg (fun name => name.toList.reverse) h
    simp only [String.toList_append, toList_clean_of_isAlphanumeric hname,
      toList_clean_of_isAlphanumeric hname', hmark, List.reverse_append, List.reverse_singleton,
      List.singleton_append] at hchars
    obtain ⟨hnames, hrest⟩ := run_unique hchars (fun c hc => hname c (List.mem_reverse.mp hc))
      (hstop _) (fun c hc => hname' c (List.mem_reverse.mp hc)) (hstop _)
    have hnodes := List.append_cancel_right (List.cons.inj hrest).2
    exact ⟨String.toList_inj.mp (List.reverse_injective hnodes),
      String.toList_inj.mp (List.reverse_injective hnames)⟩
  · rintro ⟨hnode, rfl⟩
    rw [hnode]

end Identifier

/-- All outputs that types declare have names of letters and digits. -/
def Catalog.NamesPlain (catalog : Catalog) : Prop :=
  ∀ id type, catalog.find? id = some type → ∀ port ∈ type.outputs, IsAlphanumeric port.name

/-- The outputs of the nodes of a catalog are named by letters and digits, if its types say so. -/
lemma Catalog.NamesPlain.isAlphanumeric {catalog : Catalog} (h : catalog.NamesPlain)
    {settings : Settings} {node : Node} {type : NodeType}
    (htype : catalog.find? node.type = some type) {ports : List String}
    (hports : node.outputNames type settings = .ok ports) {port : String} (hport : port ∈ ports) :
    IsAlphanumeric port := by
  unfold Node.outputNames at hports
  split at hports
  · obtain ⟨bands, -, hports⟩ := bind_eq_ok_iff.mp hports
    cases hports
    obtain ⟨family, hfamily, digits, -, hdigits, hchars, -⟩ :=
      exists_family_of_mem_analyzerPorts hport
    have hfamilies : analyzerFamilies.all
        (fun family => family.1.toList.all Char.isAlphanum) = true := by decide
    intro c hc
    rw [hchars, List.mem_append] at hc
    rcases hc with hc | hc
    · exact List.all_eq_true.mp (List.all_eq_true.mp hfamilies family hfamily) c hc
    · have hdigit := hdigits c hc
      unfold Char.isAlphanum
      rw [hdigit, Bool.or_true]
  · cases hports
    obtain ⟨declared, hdeclared, rfl⟩ := List.mem_map.mp hport
    exact h node.type type htype declared hdeclared

/-- Nodes with different cleaned ids have different variables. -/
lemma Variables.distinct_of_clean {graph : Graph} {catalog : Catalog} {settings : Settings}
    {table : Variables} (hnames : catalog.NamesPlain)
    (hids : (graph.nodes.map fun node => Identifier.clean node.id).Nodup)
    (hgenerate : generate graph catalog settings = .ok table) (node port node' port' name : String)
    (hlookup : table.lookup node port = some name)
    (hlookup' : table.lookup node' port' = some name) : node = node' ∧ port = port' := by
  have hids' := Graph.nodup_ids_of_clean hids
  obtain ⟨a, type, ⟨ha, htype, ports, hports, hport⟩, rfl, rfl⟩ :=
    (lookup_eq_some_iff hids' hgenerate).mp hlookup
  obtain ⟨b, type', ⟨hb, htype', ports', hports', hport'⟩, rfl, hname⟩ :=
    (lookup_eq_some_iff hids' hgenerate).mp hlookup'
  obtain ⟨hclean, hsame⟩ := (Identifier.pair_eq_iff (hnames.isAlphanumeric htype hports hport)
    (hnames.isAlphanumeric htype' hports' hport')).mp hname
  exact ⟨congrArg Node.id (List.inj_on_of_nodup_map hids ha hb hclean), hsame⟩

/-! ### Connected scenes -/

namespace Scene

/-- The variables and the uniforms of a scene are those that are made for its own graph, and its
catalog knows how to measure audio. -/
structure Connected (scene : Scene) : Prop where
  named : scene.OutputsNamed
  supplied : scene.Supplied
  audio : scene.catalog.MeasuresAudio scene.settings

/-- A node of the scene whose outputs are measured. -/
structure HasAudio (scene : Scene) (node : Node) (type : NodeType) (ports : List String) :
    Prop where
  mem : node ∈ scene.graph.nodes
  known : scene.catalog.find? node.type = some type
  carries : type.CarriesAudio scene.settings
  measures : node.Measures type scene.settings ports

/-- Every node of an audio type has its outputs measured. -/
lemma Connected.exists_hasAudio {scene : Scene} (h : scene.Connected) {node : Node}
    (hnode : node ∈ scene.graph.nodes) {type : NodeType}
    (htype : scene.catalog.find? node.type = some type)
    (hcarries : type.CarriesAudio scene.settings) :
    ∃ ports, scene.HasAudio node type ports := by
  obtain ⟨ports, hports, -⟩ := Variables.ports_of_mem h.named.ids h.named.generated hnode htype
  exact ⟨ports, hnode, htype, hcarries, Node.measures_of_outputNames hcarries.kind hports⟩

namespace HasAudio

variable {scene : Scene} {node : Node} {type : NodeType} {ports : List String} {port : String}
  (h : scene.Connected) (haudio : scene.HasAudio node type ports)

include h haudio

/-- A measured output is exposed. -/
lemma exposes (hport : port ∈ ports) : scene.Exposes node type port :=
  ⟨haudio.mem, haudio.known, ports, haudio.measures.outputNames_eq h.audio.kinds, hport⟩

/-- Every output that is measured has a uniform of its own. -/
lemma find?_uniforms (hport : port ∈ ports) :
    scene.uniforms.find? (Uniform.key node.id port) = some (Identifier.uniform node.id port) := by
  have hnames : ∃ names, Uniform.namesOf scene.graph scene.settings node type =
      .ok (ports ++ names) := by
    unfold Uniform.namesOf
    rw [haudio.measures.audioOutputs_eq h.audio.kinds haudio.carries]
    exact ⟨_, rfl⟩
  obtain ⟨names, hnames⟩ := hnames
  have hplace : Uniform.IsPlace scene.graph scene.catalog scene.settings node.id port :=
    ⟨node, haudio.mem, rfl, type, haudio.known, _, hnames, List.mem_append_left names hport⟩
  exact (Uniform.find?_allocate_iff h.supplied.dots h.supplied.allocated).mpr
    ⟨node.id, port, hplace, rfl, rfl⟩

lemma nonempty?_find?_uniforms (hport : port ∈ ports) :
    Uniform.nonempty? (scene.uniforms.find? (Uniform.key node.id port)) =
      some (Identifier.uniform node.id port) :=
  Uniform.nonempty?_eq_some_iff.mpr
    ⟨haudio.find?_uniforms h hport, (Identifier.isName_uniform node.id port).ne_empty⟩

/-- The code of the node copies the uniforms of all its outputs. -/
lemma emit_eq : Scope.emit { scene, node, type } =
    pure (some ("\n".intercalate (ports.map (Identifier.copyLine node.id)))) := by
  have hcopy : Scope.copyUniforms { scene, node, type } ports =
      pure (ports.map (Identifier.copyLine node.id)) := by
    refine Scope.copyUniforms_eq_pure (fun port hport => ?_) fun port hport => ?_
    · exact h.named.lookup_eq_some_iff.mpr ⟨node, type, haudio.exposes h hport, rfl, rfl⟩
    · exact haudio.nonempty?_find?_uniforms h hport
  rw [Scope.emit_of_measures h.audio.kinds haudio.carries haudio.measures, hcopy]
  rfl

/-- The blocks of the node, one for each time that it runs. -/
lemma filter_blocks_eq {blocks : List Block} (hblocks : scene.blocks.outcome = .ok blocks) :
    blocks.filter (fun block => block.node == node.id) =
      List.replicate (scene.order.count node.id)
        ⟨type.displayName, node.id, Identifier.copyLines node.id ports⟩ := by
  have hof : Scope.of? scene node.id = some { scene, node, type } := Scope.of?_eq_some_iff.mpr
    ⟨node, type, Graph.node?_of_mem h.named.ids haudio.mem, haudio.known, rfl⟩
  have hne := haudio.measures.ports_ne_nil haudio.carries.outputs h.audio.bands
  exact filter_blocks hblocks ⟨type.displayName, node.id, Identifier.copyLines node.id ports⟩
    fun result hresult => block_of_copyLines hof hne (haudio.emit_eq h) hresult

/-- The declaration of an output that is measured. -/
lemma declaresOutput (hport : port ∈ ports) :
    scene.DeclaresOutput node ⟨.float, Identifier.outputVariable node.id port⟩ := by
  refine ⟨type, port, haudio.exposes h hport, ?_⟩
  unfold outputDeclaration
  rw [haudio.carries.numbers]

/-- The record of an output that is measured, whether it is used or not. -/
lemma mem_records {used : Option (List String)} {records : List Uniform.Record}
    (hrecords : Uniform.records scene.graph scene.catalog scene.uniforms used scene.settings =
      .ok records) (hport : port ∈ ports) :
    ⟨Identifier.uniform node.id port, node.id, port, "float", .number Double.zero, true⟩ ∈
      records := by
  have hown : ∃ others, Uniform.recordsOf scene.catalog scene.uniforms used scene.settings node =
      .ok (Uniform.audioRecords scene.uniforms node ports ++ others) := by
    unfold Uniform.recordsOf
    rw [haudio.known]
    dsimp only
    rw [haudio.measures.audioOutputs_eq h.audio.kinds haudio.carries]
    exact ⟨_, rfl⟩
  obtain ⟨others, hown⟩ := hown
  refine (Uniform.mem_records_iff hrecords).mpr
    ⟨node, haudio.mem, _, hown, List.mem_append_left others ?_⟩
  refine List.mem_filterMap.mpr ⟨port, hport, ?_⟩
  rw [haudio.nonempty?_find?_uniforms h hport]
  rfl

end HasAudio

end Scene

/-- A node of another category does not copy uniforms. -/
lemma NodeType.emitter_ne_of_category {type : NodeType} {settings : Settings}
    (h : type.category ≠ settings.audioCategory) :
    type.emitter settings ≠ .audioFile ∧ type.emitter settings ≠ .audioAnalyzer := by
  unfold emitter
  split
  · simp
  · rw [if_neg fun haudio => h haudio.1, if_neg fun haudio => h haudio.1]
    split
    · simp
    · simp

/-- Where variables and uniforms are made for the graph, no node misses a uniform. -/
theorem Scene.Connected.missesNone {scene : Scene} (h : scene.Connected) : scene.MissesNone := by
  intro id scope hof
  obtain ⟨node, type, hnode, htype, rfl⟩ := Scope.of?_eq_some_iff.mp hof
  have hmem := Graph.mem_of_node? hnode
  by_cases hcategory : type.category = scene.settings.audioCategory
  · -- an audio node fills no template, and the uniforms that it copies are there
    have hcarries := h.audio.types node.type type htype (Or.inl hcategory)
    obtain ⟨ports, haudio⟩ := h.exists_hasAudio hmem htype hcarries
    refine ⟨?_, fun template htemplate => ?_⟩
    · rw [haudio.emit_eq h]
      exact .pure _
    · rw [hcarries.helpers] at htemplate
      cases htemplate
  · -- any other node needs the uniforms of the parameters that wires do not override
    obtain ⟨hfile, hanalyzer⟩ := NodeType.emitter_ne_of_category hcategory
    refine Scope.JoinsUniforms.missesNone (fun name parameter hdeclared hnumeric hmode => ?_)
      hfile hanalyzer
    have huniform := h.supplied.uniform?_eq ⟨hmem, htype, hcategory, hdeclared, hnumeric⟩
    rw [Uniform.isOverridden_eq_false_iff.mpr (Or.inr hmode), if_neg Bool.false_ne_true] at huniform
    rw [huniform]
    rfl

/-! ### The standard catalog -/

/-- Whether the type is one of audio nodes, with outputs that are numbers and without helpers. -/
def NodeType.carriesAudio (type : NodeType) (settings : Settings) : Bool :=
  type.category == settings.audioCategory
    && (type.id == settings.audioFileType || type.id == settings.audioAnalyzerType)
    && type.id != settings.sinkType && !type.outputs.isEmpty
    && type.outputs.all (fun port => port.type == .float) && type.helperTemplate?.isNone

/-- The check for audio types finds only such types. -/
lemma NodeType.carriesAudio_of_eq_true {type : NodeType} {settings : Settings}
    (h : type.carriesAudio settings = true) : type.CarriesAudio settings := by
  unfold carriesAudio at h
  simp only [Bool.and_eq_true, Bool.or_eq_true, beq_iff_eq, bne_iff_ne, Bool.not_eq_true',
    List.isEmpty_eq_false_iff, Option.isNone_iff_eq_none] at h
  obtain ⟨⟨⟨⟨⟨hcategory, hkind⟩, hsink⟩, houtputs⟩, hnumbers⟩, hhelpers⟩ := h
  refine ⟨hcategory, hkind, hsink, houtputs, fun port => ?_, hhelpers⟩
  unfold outputType
  cases hport : type.output? port with
  | none => rfl
  | some output =>
    exact beq_iff_eq.mp (List.all_eq_true.mp hnumbers output (List.mem_of_find?_eq_some hport))

namespace Catalog

/-- The standard catalog knows how to measure audio. -/
lemma measuresAudio_standard (depth : Nat) :
    Catalog.standard.MeasuresAudio (.standard depth) where
  kinds := by
    show "audio-file-input" ≠ "audio-analyzer"
    decide
  types := by
    have hall : Palette.all.all (fun type => type.carriesAudio {} ||
        type.category != "Audio" && type.id != "audio-file-input" && type.id != "audio-analyzer") =
          true := by decide +kernel
    intro id type htype haudio
    have hcheck := List.all_eq_true.mp hall type (mem_of_find?_standard htype)
    rw [Bool.or_eq_true] at hcheck
    refine NodeType.carriesAudio_of_eq_true (hcheck.resolve_right fun hother => ?_)
    simp only [Bool.and_eq_true, bne_iff_ne] at hother
    rcases haudio with hcategory | hfile | hanalyzer
    · exact hother.1.1 hcategory
    · exact hother.1.2 hfile
    · exact hother.2 hanalyzer
  bands := by
    have hrows : (({} : Settings).defaultBands.toGrid.toOption.all
        fun grid => !grid.rows.isEmpty) = true := by decide +kernel
    intro grid hgrid hnil
    rw [hgrid] at hrows
    simp [Except.toOption, hnil] at hrows

/-- The outputs of the standard types are named by letters and digits. -/
lemma namesPlain_standard : Catalog.standard.NamesPlain := by
  have hall : Palette.all.all (fun type =>
      type.outputs.all fun port => port.name.toList.all Char.isAlphanum) = true := by decide +kernel
  intro id type htype port hport
  have hcheck := List.all_eq_true.mp hall type (mem_of_find?_standard htype)
  exact List.all_eq_true.mp (List.all_eq_true.mp hcheck port hport)

end Catalog

/-! ### Compiled shaders -/

lemma Uniform.declarationLine_float (name : String) :
    declarationLine ("float", name) = "uniform float " ++ name ++ ";" := by
  have hstart : "uniform " ++ "float" ++ " " = "uniform float " := by decide
  unfold declarationLine
  rw [hstart]

/-- The sections of a compiled shader agree on the outputs of an audio node. -/
structure Compiled.AgreesOnAudio (compiled : Compiled) (order : List String) (uniformText : String)
    (declarations : List Declaration) (blocks : List Block) (node : Node) (type : NodeType)
    (ports : List String) : Prop where
  /-- Each time the node runs, its block copies the uniforms of its outputs and does nothing
  else. -/
  copied : blocks.filter (fun block => block.node == node.id) =
    List.replicate (order.count node.id) ⟨type.displayName, node.id,
      ports.map fun port => (Identifier.outputVariable node.id port ++ " = " ++
        Identifier.uniform node.id port ++ ";").toList⟩
  /-- In the main function this block is a comment with the node, and one line for each output
  between braces. -/
  written : ∀ block ∈ blocks, block.node = node.id → block.lines =
    ["  // Node: " ++ type.displayName ++ " (" ++ node.id ++ ")", "  \x7b"] ++
      (ports.map fun port => "    " ++ (Identifier.outputVariable node.id port ++ " = " ++
        Identifier.uniform node.id port ++ ";")) ++ ["  \x7d", ""]
  /-- The variables that are assigned are declared as numbers. -/
  declared : ∀ port ∈ ports, ⟨.float, Identifier.outputVariable node.id port⟩ ∈ declarations
  /-- The uniforms that are copied are declared, whether the node runs or not. -/
  uniforms : ∀ port ∈ ports,
    ("uniform float " ++ Identifier.uniform node.id port ++ ";").toList ∈ lines uniformText.toList
  /-- The host is told about them. -/
  records : ∀ port ∈ ports,
    ⟨Identifier.uniform node.id port, node.id, port, "float", .number Double.zero, true⟩ ∈
      compiled.uniforms
  names : ∀ port ∈ ports, compiled.uniformNames.find? (Uniform.key node.id port) =
    some (Identifier.uniform node.id port)

namespace Request

/-- The request is for a graph of standard node types and the standard settings, the cleaned ids of
its nodes differ, and its uniforms are those that are allocated for the graph. -/
structure DrivesAudio (request : Request) : Prop where
  catalog : request.catalog = Catalog.standard
  settings : ∃ depth, request.settings = .standard depth
  ids : (request.graph.nodes.map fun node => Identifier.clean node.id).Nodup
  allocated : ∀ table, request.uniforms = some table →
    Uniform.allocate request.graph request.catalog request.settings = .ok table

variable {request : Request}

/-- The scene of such a request is connected. -/
lemma DrivesAudio.connected (h : request.DrivesAudio) {scene : Scene}
    (hscene : request.scene = .ok scene) (renames : Table (Table String)) :
    (scene.withRenames renames).Connected := by
  obtain ⟨hgraph, hcatalog, -, hsettings, hnamed, huniforms⟩ := isScene_of_scene hscene
  have hallocated : Uniform.allocate request.graph request.catalog request.settings =
      .ok scene.uniforms := huniforms.elim (h.allocated scene.uniforms) fun hown => hown.2
  have hids := Graph.nodup_ids_of_clean h.ids
  obtain ⟨depth, hstandard⟩ := h.settings
  rw [h.catalog] at hcatalog
  rw [hstandard] at hsettings
  rw [h.catalog, hstandard] at hallocated hnamed
  clear hscene huniforms
  cases scene with
  | mk graph catalog variableNames order uniforms renames' settings =>
    cases hgraph
    cases hcatalog
    cases hsettings
    have hdistinct := Variables.distinct_of_clean Catalog.namesPlain_standard h.ids hnamed
    exact ⟨⟨hids, hnamed, hdistinct⟩, ⟨hids, Catalog.dotFree_standard,
      Catalog.nodup_parameters_standard, hallocated⟩, Catalog.measuresAudio_standard depth⟩

/-- No uniform is reported as missing. -/
lemma DrivesAudio.not_missing (h : request.DrivesAudio) {entry : String}
    (hentry : entry ∈ (compile request).diagnostics.warnings) :
    ¬"[WARNING] No uniform for ".toList <+: entry.toList := by
  have hmisses : ∀ scene, request.scene = .ok scene →
      ∀ renames, Scene.MissesNone { scene with renames } :=
    fun scene hscene renames => (h.connected hscene renames).missesNone
  have hstart : "[WARNING] No uniform for " = "[WARNING] " ++ "No uniform for " := by decide
  obtain ⟨message, rfl, hopens⟩ := exists_opens_of_mem_warnings hmisses hentry
  unfold Diagnostics.warningEntry
  rw [hstart, String.toList_append, String.toList_append, List.prefix_append_right_inj]
  exact hopens.not_prefix (by decide)

/-- The sections of a shader agree on the outputs of one audio node. -/
lemma DrivesAudio.agreesOnAudio (h : request.DrivesAudio) (generation : request.Generation)
    {compiled : Compiled} (hnames : compiled.uniformNames = generation.scene.uniforms)
    (hrecords : compiled.uniforms = generation.records) {declared : List Declaration}
    (hdeclared : ∀ d, d ∈ declared ↔
      ∃ node, (generation.scene.withRenames generation.plan).DeclaresOutput node d)
    {blocks : List Block}
    (hblocks : (generation.scene.withRenames generation.plan).blocks.outcome = .ok blocks)
    {node : Node} {type : NodeType} {ports : List String}
    (haudio : (generation.scene.withRenames generation.plan).HasAudio node type ports) :
    compiled.AgreesOnAudio request.order generation.uniformText declared blocks node type
      ports := by
  have hconnected := h.connected generation.scene_eq generation.plan
  have hscene := isScene_of_scene generation.scene_eq
  have hrecord : ∀ port ∈ ports, ⟨Identifier.uniform node.id port, node.id, port, "float",
      .number Double.zero, true⟩ ∈ generation.records := by
    have hfound := generation.records_eq
    rw [← hscene.graph, ← hscene.catalog, ← hscene.settings] at hfound
    exact fun port hport => haudio.mem_records hconnected hfound hport
  have hcopied := haudio.filter_blocks_eq hconnected hblocks
  constructor
  · rw [← hscene.order]
    exact hcopied
  · intro block hblock hnode
    have hmem : block ∈ blocks.filter fun block => block.node == node.id :=
      List.mem_filter.mpr ⟨hblock, beq_iff_eq.mpr hnode⟩
    rw [hcopied] at hmem
    rw [List.eq_of_mem_replicate hmem]
    exact Identifier.lines_copyLines type.displayName node.id ports
  · exact fun port hport => (hdeclared _).mpr ⟨node, haudio.declaresOutput hconnected hport⟩
  · intro port hport
    rw [← Uniform.declarationLine_float]
    exact Uniform.mem_lines_declarations
      (List.mem_map_of_mem (f := fun record : Uniform.Record => (record.type, record.name))
        (hrecord port hport))
      (Uniform.newline_not_mem_declarationLine .float (Identifier.isName_uniform node.id port).2)
  · rw [hrecords]
    exact hrecord
  · intro port hport
    have hfind := haudio.find?_uniforms hconnected hport
    rw [hnames]
    exact hfind

/-- The sections of a compiled shader agree on the outputs of all audio nodes, and no uniform is
missing. -/
theorem audio_sections_agree {compiled : Compiled} (h : request.DrivesAudio)
    (hcompiled : (compile request).outcome = .ok compiled) :
    ∃ (generation : request.Generation) (color : String) (blocks : List Block)
      (declared : List Declaration),
      compiled.shader =
        shaderText request.settings generation.uniformText generation.program color ∧
      (generation.scene.withRenames generation.plan).blocks.outcome = .ok blocks ∧
      generation.program.mainCode = "\n".intercalate (blocks.flatMap Block.lines) ∧
      (generation.scene.withRenames generation.plan).declarations.outcome = .ok declared ∧
      IsLines generation.program.declarations (declared.map Declaration.text) ∧
      (declared.map Declaration.name).Nodup ∧
      (∀ node ∈ request.graph.nodes,
        node.type = "audio-file-input" ∨ node.type = "audio-analyzer" →
          ∃ type ports, Catalog.standard.find? node.type = some type ∧
            node.Measures type request.settings ports ∧
            compiled.AgreesOnAudio request.order generation.uniformText declared blocks node type
              ports) ∧
      ∀ entry ∈ (compile request).diagnostics.warnings,
        ¬"[WARNING] No uniform for ".toList <+: entry.toList := by
  obtain ⟨depth, hstandard⟩ := h.settings
  obtain ⟨generation, color, hshader, hnames, -, hrecords⟩ := exists_products_of_compile hcompiled
  have hconnected := h.connected generation.scene_eq generation.plan
  have hscene := isScene_of_scene generation.scene_eq
  have hgraph : (generation.scene.withRenames generation.plan).graph = request.graph := hscene.graph
  have hcatalog : (generation.scene.withRenames generation.plan).catalog = Catalog.standard :=
    hscene.catalog.trans h.catalog
  have hsettings : (generation.scene.withRenames generation.plan).settings = request.settings :=
    hscene.settings
  obtain ⟨_, blocks, _, -, hblocks, -, hprogram⟩ := Scene.exists_of_program generation.program_eq
  obtain ⟨declared, hdeclared, hlines, hdistinct, hmem⟩ :=
    hconnected.named.exists_lines generation.program_eq
  refine ⟨generation, color, blocks, declared, hshader, hblocks, ?_, hdeclared, hlines, hdistinct,
    ?_, fun entry => h.not_missing⟩
  · rw [hprogram]
  · intro node hnode htype
    obtain ⟨type, hfind, hid⟩ : ∃ type, Catalog.standard.find? node.type = some type ∧
        (type.id = "audio-file-input" ∨ type.id = "audio-analyzer") := by
      rcases htype with htype | htype
      · exact ⟨Palette.audioFileInput, by rw [htype]; rfl, Or.inl rfl⟩
      · exact ⟨Palette.audioAnalyzer, by rw [htype]; rfl, Or.inr rfl⟩
    have hcarries :=
      (Catalog.measuresAudio_standard depth).types node.type type hfind (Or.inr hid)
    obtain ⟨ports, haudio⟩ := hconnected.exists_hasAudio (by rw [hgraph]; exact hnode)
      (by rw [hcatalog]; exact hfind) (by rw [hsettings, hstandard]; exact hcarries)
    have hmeasures := haudio.measures
    rw [hsettings] at hmeasures
    exact ⟨type, ports, hfind, hmeasures,
      h.agreesOnAudio generation hnames hrecords hmem hblocks haudio⟩

/-- An analyzer with bands of its own, one of which is shown, an analyzer whose bands cannot be
read, and a file.  Only the first of them runs. -/
def shownBass : Request :=
  .standard
    { nodes := [⟨"song", "audio-file-input", Table.empty, Table.empty⟩,
        ⟨"mic-1", "audio-analyzer", Table.ofList [("frequencyBands",
          .list [.list [.int 20, .int 120], .list [.int 120, .int 300]])], Table.empty⟩,
        ⟨"mic-2", "audio-analyzer", Table.ofList [("frequencyBands", .text "wide")], Table.empty⟩,
        ⟨"f", "final-output", Table.empty, Table.empty⟩]
      wires := [⟨"mic-1", "band0", "f", .port "in"⟩] }
    ["mic-1", "f"] none 1000

/-- The first analyzer copies the uniforms of its two bands.  Those of the other analyzer, which has
the four bands of its type, and of the file are there as well. -/
theorem audio_sections_agree_shownBass :
    shownBass.DrivesAudio ∧ ∃ compiled, (compile shownBass).outcome = .ok compiled ∧
      ∃ (generation : shownBass.Generation) (blocks : List Block),
        generation.program.mainCode = "\n".intercalate (blocks.flatMap Block.lines) ∧
        (blocks.filter fun block => block.node == "mic-1") =
          [⟨"Audio Analyzer", "mic-1", ["node_mic_1_band0 = umic_1Band0;".toList,
            "node_mic_1_band1 = umic_1Band1;".toList, "node_mic_1_remap0 = umic_1Remap0;".toList,
            "node_mic_1_remap1 = umic_1Remap1;".toList]⟩] ∧
        (∀ block ∈ blocks, block.node = "mic-1" → block.lines =
          ["  // Node: Audio Analyzer (mic-1)", "  \x7b", "    node_mic_1_band0 = umic_1Band0;",
            "    node_mic_1_band1 = umic_1Band1;", "    node_mic_1_remap0 = umic_1Remap0;",
            "    node_mic_1_remap1 = umic_1Remap1;", "  \x7d", ""]) ∧
        (blocks.filter fun block => block.node == "mic-2") = [] ∧
        "uniform float umic_2Remap3;".toList ∈ lines generation.uniformText.toList ∧
        "uniform float usongDuration;".toList ∈ lines generation.uniformText.toList := by
  have hdrives : shownBass.DrivesAudio := by
    refine ⟨rfl, ⟨1000, rfl⟩, by decide, fun table htable => ?_⟩
    cases htable
  have hcompiled : (compile shownBass).outcome = .ok _ :=
    eq_ok_of_isSome_toOption default (by decide +kernel)
  obtain ⟨generation, color, blocks, declared, -, -, hmain, -, -, -, hagrees, -⟩ :=
    audio_sections_agree hdrives hcompiled
  have hanalyzer : Catalog.standard.find? "audio-analyzer" = some Palette.audioAnalyzer := rfl
  have hfile : Catalog.standard.find? "audio-file-input" = some Palette.audioFileInput := rfl
  -- how many bands an analyzer has is found by evaluation
  have hports : ∀ (count : Nat) {node : Node} {ports : List String},
      node.Measures Palette.audioAnalyzer shownBass.settings ports →
      (node.bands Palette.audioAnalyzer shownBass.settings).toOption.map List.length = some count →
        ports = analyzerPorts count := by
    rintro count node ports (⟨hfile, -⟩ | ⟨-, bands, hbands, rfl⟩) hcount
    · exact absurd hfile (by decide)
    · rw [hbands] at hcount
      exact congrArg analyzerPorts (Option.some.inj hcount)
  obtain ⟨type, ports, htype, hmeasures, hfirst⟩ :=
    hagrees _ (List.mem_cons_of_mem _ List.mem_cons_self) (Or.inr rfl)
  obtain rfl := Option.some.inj (htype.symm.trans hanalyzer)
  obtain rfl := hports 2 hmeasures (by decide +kernel)
  obtain ⟨type', ports', htype', hmeasures', hsecond⟩ := hagrees _
    (List.mem_cons_of_mem _ (List.mem_cons_of_mem _ List.mem_cons_self)) (Or.inr rfl)
  obtain rfl := Option.some.inj (htype'.symm.trans hanalyzer)
  obtain rfl := hports 4 hmeasures' (by decide +kernel)
  obtain ⟨type'', ports'', htype'', hmeasures'', hsong⟩ :=
    hagrees _ List.mem_cons_self (Or.inl rfl)
  obtain rfl := Option.some.inj (htype''.symm.trans hfile)
  obtain rfl : ports'' = Palette.audioFileInput.outputs.map Port.name := by
    rcases hmeasures'' with ⟨-, hports⟩ | ⟨hother, -⟩
    · exact hports
    · exact absurd hother (by decide)
  have hremap : "uniform float umic_2Remap3;" =
      "uniform float " ++ Identifier.uniform "mic-2" "remap3" ++ ";" := by decide
  have hduration : "uniform float usongDuration;" =
      "uniform float " ++ Identifier.uniform "song" "duration" ++ ";" := by decide
  refine ⟨hdrives, _, hcompiled, generation, blocks, hmain, hfirst.copied.trans ?_,
    fun block hblock hnode => (hfirst.written block hblock hnode).trans ?_,
    hsecond.copied.trans ?_, ?_, ?_⟩
  · decide +kernel
  · decide +kernel
  · decide +kernel
  · rw [hremap]
    exact hsecond.uniforms "remap3" (by decide +kernel)
  · rw [hduration]
    exact hsong.uniforms "duration" (by decide +kernel)

end Request

end ShaderLoom
