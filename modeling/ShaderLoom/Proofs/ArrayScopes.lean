import ShaderLoom.Proofs.WrittenOutputs

/-!
# Arrays belong to blocks

The code of a node and its helpers ask for an array parameter in the same way, and both are given
the name of a constant.  The constant is declared in the block of the node, which stands in the main
function.  The helpers stand above the main function, and no section above them names a constant of
this kind: there are the lines of the settings, the uniforms and the variables of outputs.

So the helpers of a shader are closed exactly if none of them is given an array.
-/

namespace ShaderLoom

open Text

/-! ### Words that a text does not hold -/

namespace Text

variable {word : List Char}

/-- A word does not stand in a text that lacks one of its characters. -/
lemma not_hasWord_of_not_mem {c : Char} (hc : c ∈ word) {text : List Char} (htext : c ∉ text)
    (before : Option Char) : ¬HasWord word before text := by
  rintro ⟨left, right, rfl, -, -⟩
  exact htext (List.mem_append_right _ (List.mem_append_left _ hc))

/-- A declaration of another name does not hold the word, if the rest of it does not. -/
lemma not_hasWord_declaration (hne : word ≠ []) (hword : AllWord word) {start name rest : List Char}
    {mark : Char} (hstart : ¬HasWord word none start) (hname : AllWord name) (hother : name ≠ word)
    (hmark : isWord mark = false) (hrest : ¬HasWord word (some mark) rest) :
    ¬HasWord word none (start ++ ' ' :: (name ++ mark :: rest)) := by
  rw [hasWord_append_cons_iff hne hword (by decide), hasWord_append_cons_iff hne hword hmark]
  rintro (h | h | h)
  · exact hstart h
  · exact hother (h.eq_of_allWord hname)
  · exact hrest h

end Text

namespace Identifier

lemma head?_outputVariable (node port : String) :
    (outputVariable node port).toList.head? = some 'n' := by
  have hstart : "node_".toList = 'n' :: "ode_".toList := by decide
  unfold outputVariable
  simp only [String.toList_append, hstart, List.cons_append, List.head?_cons]

lemma head?_arrayConstant (node name : String) :
    (arrayConstant node name).toList.head? = some 'a' := by
  have hstart : "array_".toList = 'a' :: "rray_".toList := by decide
  unfold arrayConstant
  simp only [String.toList_append, hstart, List.cons_append, List.head?_cons]

/-- The name of an array constant is a word. -/
lemma isName_arrayConstant (node name : String) : Helper.IsName (arrayConstant node name) := by
  have hstart : "array_".toList.all isWord = true := by decide
  refine ⟨fun hnil => ?_, allWord_pair (List.all_eq_true.mp hstart) node name⟩
  have hhead := head?_arrayConstant node name
  rw [hnil] at hhead
  cases hhead

/-- A letter that every array constant has. -/
lemma y_mem_arrayConstant (node name : String) : 'y' ∈ (arrayConstant node name).toList := by
  have hstart : 'y' ∈ "array_".toList := by decide
  unfold arrayConstant
  simp only [String.toList_append, List.mem_append]
  exact Or.inl (Or.inl (Or.inl hstart))

end Identifier

/-! ### Texts that name no array constant -/

/-- No array constant stands in the text as a whole word. -/
def NamesNoArray (text : String) : Prop :=
  ∀ node name, ¬HasWord (Identifier.arrayConstant node name).toList none text.toList

/-- The letter of `array` that is in no keyword and in no line of the default settings. -/
lemma namesNoArray_of_not_mem {text : String} (h : 'y' ∉ text.toList) : NamesNoArray text :=
  fun node name => not_hasWord_of_not_mem (Identifier.y_mem_arrayConstant node name) h none

/-- Lines that name no array constant name none when they are joined. -/
lemma namesNoArray_intercalate {lines : List String} (h : ∀ line ∈ lines, NamesNoArray line) :
    NamesNoArray ("\n".intercalate lines) := by
  intro node name hstands
  have hname := Identifier.isName_arrayConstant node name
  rw [toList_intercalate_newline] at hstands
  obtain ⟨text, htext, hstands⟩ := (hasWord_joinLines_iff hname.1 hname.2).mp hstands
  obtain ⟨line, hline, rfl⟩ := List.mem_map.mp htext
  exact h line hline node name hstands

/-- The declaration of a name that is no array constant. -/
lemma namesNoArray_declaration (start name : String) (mark : Char) (rest : String) {text : String}
    (htext : text.toList = start.toList ++ ' ' :: (name.toList ++ mark :: rest.toList))
    (hstart : 'y' ∉ start.toList) (hname : AllWord name.toList)
    (hother : ∀ node parameter, name ≠ Identifier.arrayConstant node parameter)
    (hmark : isWord mark = false) (hrest : 'y' ∉ rest.toList) : NamesNoArray text := by
  intro node parameter
  rw [htext]
  have hword := Identifier.isName_arrayConstant node parameter
  have hy := Identifier.y_mem_arrayConstant node parameter
  exact not_hasWord_declaration hword.1 hword.2 (not_hasWord_of_not_mem hy hstart none) hname
    (fun heq => hother node parameter (String.toList_inj.mp heq)) hmark
    (not_hasWord_of_not_mem hy hrest _)

/-! ### The sections of a shader -/

/-- The lines of a shader that the settings write above all others. -/
def Settings.header (settings : Settings) : List String :=
  [settings.versionLine,
    settings.precisionLine,
    "",
    "// Global uniforms",
    "uniform vec2 " ++ settings.resolutionUniform ++ ";",
    "uniform float " ++ settings.timeUniform ++ ";",
    ""]

/-- The sections of a shader above its helpers. -/
def shaderHead (settings : Settings) (uniforms : String) (program : Program) : List String :=
  settings.header ++ [uniforms, "", program.declarations, ""]

/-- The sections of a shader below its helpers: the main function, with the code of the nodes. -/
def shaderTail (settings : Settings) (program : Program) (color : String) : List String :=
  let resolution := settings.resolutionUniform
  ["",
    "out vec4 " ++ settings.colorOutput ++ ";",
    "",
    "void main() \x7b",
    "  vec2 uv = gl_FragCoord.xy / " ++ resolution ++ ".xy;",
    "  vec2 " ++ settings.pointVariable ++ " = (uv * 2.0 - 1.0) * vec2(" ++ resolution ++ ".x / "
      ++ resolution ++ ".y, 1.0);",
    "",
    program.mainCode,
    "  " ++ settings.colorOutput ++ " = vec4(" ++ color ++ ", 1.0);",
    "\x7d",
    ""]

/-- The helpers divide a shader in two. -/
lemma shaderText_eq (settings : Settings) (uniforms : String) (program : Program)
    (color : String) :
    shaderText settings uniforms program color = "\n".intercalate
      (shaderHead settings uniforms program ++ program.helpers ::
        shaderTail settings program color) :=
  rfl

/-- The lines at the top of a shader name no array constant. -/
lemma namesNoArray_header : ∀ part ∈ ({} : Settings).header, NamesNoArray part := by
  have hletters : ∀ part ∈ ({} : Settings).header, 'y' ∉ part.toList := by decide
  exact fun part hpart => namesNoArray_of_not_mem (hletters part hpart)

/-! ### Uniforms -/

namespace Uniform

variable {graph : Graph} {catalog : Catalog} {settings : Settings} {table : Table String}

/-- What is recorded is a uniform of the table, with a type of a parameter. -/
lemma mem_values_of_mem_records {used : Option (List String)} {found : List Record}
    (h : records graph catalog table used settings = .ok found) {record : Record}
    (hrecord : record ∈ found) : record.name ∈ table.values ∧
      ∃ type : ParameterType, record.type = type.uniformKeyword := by
  obtain ⟨node, -, type, -, ⟨outputs, port, u, -, -, hfind, rfl⟩ |
    ⟨name, parameter, u, -, hfind, -, -, rfl⟩⟩ := cases_of_mem_records h hrecord
  · exact ⟨List.mem_map_of_mem (Table.mem_entries_of_find? hfind), .float, rfl⟩
  · exact ⟨List.mem_map_of_mem (Table.mem_entries_of_find? hfind), parameter.type, rfl⟩

/-- The uniforms of a shader are no array constants, and their types are none. -/
lemma namesNoArray_declarations {uniforms : List (String × String)}
    (h : ∀ uniform ∈ uniforms, (∃ type : ParameterType, uniform.1 = type.uniformKeyword) ∧
      AllWord uniform.2.toList ∧
      ∀ node parameter, uniform.2 ≠ Identifier.arrayConstant node parameter) :
    NamesNoArray (declarations uniforms) := by
  rw [declarations_eq]
  refine namesNoArray_intercalate fun line hline => ?_
  obtain ⟨⟨keyword, name⟩, huniform, rfl⟩ := List.mem_map.mp (mem_sortedSet.mp hline)
  obtain ⟨⟨type, rfl⟩, hname, hother⟩ := h _ huniform
  have hstart : 'y' ∉ ("uniform " ++ type.uniformKeyword).toList := by
    cases type <;> decide
  refine namesNoArray_declaration ("uniform " ++ type.uniformKeyword) name ';' "" ?_ hstart hname
    hother (by decide) (by decide)
  have hblank : " ".toList = [' '] := by decide
  have hend : ";".toList = [';'] := by decide
  unfold declarationLine
  simp only [String.toList_append, List.append_assoc, hblank, hend, List.singleton_append]
  rfl

end Uniform

/-! ### Variables of outputs -/

/-- What holds of the declared names and of the variables of a node holds of the names that are
declared then. -/
lemma holds_of_mem_declareOutputs {P : String → Prop} {type : NodeType} {table : Table String}
    (htable : ∀ port name, table.find? port = some name → P name) (ports : List String)
    {declared : List Declaration} (hdeclared : ∀ d ∈ declared, P d.name) :
    ∀ d ∈ declareOutputs type table declared ports, P d.name := by
  induction ports generalizing declared with
  | nil => exact hdeclared
  | cons port ports ih =>
    unfold declareOutputs
    cases hfind : table.find? port with
    | none => exact ih hdeclared
    | some name =>
      refine ih fun d hd => ?_
      split at hd
      · exact hdeclared d hd
      · rcases List.mem_append.mp hd with hd | hd
        · exact hdeclared d hd
        · rw [List.mem_singleton.mp hd]
          exact htable port name hfind

namespace Scene

variable {scene : Scene}

/-- Only variables of outputs are declared. -/
lemma exists_lookup_of_mem_declarations {declared : List Declaration}
    (h : scene.declarations.outcome = .ok declared) :
    ∀ d ∈ declared, ∃ id port, scene.variableNames.lookup id port = some d.name := by
  unfold declarations at h
  rw [Traced.outcome_bind, Traced.outcome_foldlM] at h
  obtain ⟨first, hfirst, h⟩ := bind_eq_ok_iff.mp h
  rw [Traced.outcome_foldlM] at h
  have hstart : ∀ d ∈ first, ∃ id port, scene.variableNames.lookup id port = some d.name := by
    refine holds_of_foldlM_eq_ok (P := fun declared : List Declaration => ∀ d ∈ declared,
      ∃ id port, scene.variableNames.lookup id port = some d.name) ?_ ?_ hfirst
    · intro declared declared' node _ hdeclared hstep
      unfold declareNode at hstep
      split at hstep
      · cases hstep
        exact hdeclared
      · dsimp only at hstep
        split at hstep
        · cases hstep
          exact hdeclared
        · rw [Traced.outcome_bind, Traced.outcome_liftM] at hstep
          obtain ⟨ports, -, hstep⟩ := bind_eq_ok_iff.mp hstep
          cases hstep
          exact holds_of_mem_declareOutputs
            (P := fun name => ∃ id port, scene.variableNames.lookup id port = some name)
            (fun port name hfind => ⟨node.id, port, hfind⟩) ports hdeclared
    · intro d hd
      cases hd
  refine holds_of_foldlM_eq_ok (P := fun declared : List Declaration => ∀ d ∈ declared,
    ∃ id port, scene.variableNames.lookup id port = some d.name) ?_ hstart h
  intro declared declared' wire _ hdeclared hstep
  unfold declareSource at hstep
  split at hstep
  · next name type hlookup _ =>
    split at hstep
    · cases hstep
      exact hdeclared
    · cases hstep
      intro d hd
      rcases List.mem_append.mp hd with hd | hd
      · exact hdeclared d hd
      · rw [List.mem_singleton.mp hd]
        exact ⟨wire.source, wire.sourcePort, hlookup⟩
  · cases hstep
    exact hdeclared

/-- The variables of outputs are no array constants. -/
lemma namesNoArray_declarations
    (hnamed : Variables.generate scene.graph scene.catalog scene.settings =
      .ok scene.variableNames) {program : Program} (h : scene.program.outcome = .ok program) :
    NamesNoArray program.declarations := by
  obtain ⟨declared, _, _, hdeclared, -, -, rfl⟩ := Scene.exists_of_program h
  refine namesNoArray_intercalate fun line hline => ?_
  obtain ⟨d, hd, rfl⟩ := List.mem_map.mp hline
  obtain ⟨id, port, hlookup⟩ := exists_lookup_of_mem_declarations hdeclared d hd
  have hname := Variables.eq_of_lookup hnamed hlookup
  have hkeyword : 'y' ∉ d.type.keyword.toList := by
    cases d.type <;> decide
  have hzero : 'y' ∉ ("= " ++ d.type.zeroText ++ ";").toList := by
    cases d.type <;> decide
  refine namesNoArray_declaration d.type.keyword d.name ' ' ("= " ++ d.type.zeroText ++ ";") ?_
    hkeyword ?_ ?_ (by decide) hzero
  · have hblank : " ".toList = [' '] := by decide
    have hequals : " = ".toList = ' ' :: "= ".toList := by decide
    unfold Declaration.text
    simp only [String.toList_append, List.append_assoc, hblank, hequals, List.cons_append,
      List.nil_append]
  · rw [hname]
    exact Identifier.allWord_outputVariable id port
  · intro node parameter heq
    have hhead := Identifier.head?_outputVariable id port
    rw [← hname, heq, Identifier.head?_arrayConstant] at hhead
    exact absurd (Option.some.inj hhead) (by decide)

end Scene

/-! ### The arrays of a node -/

/-- The declaration of an array names it. -/
lemma Literal.hasWord_arrayDeclaration {name : String} {entries : List Double} {places : Int}
    {text : String} (h : arrayDeclaration name entries places = .ok text) :
    HasWord name.toList none text.toList := by
  obtain ⟨body, -, h⟩ := bind_eq_ok_iff.mp h
  cases h
  have hopen : "[".toList = ['['] := by decide
  simp only [String.toList_append, List.append_assoc, hopen, List.singleton_append]
  refine ⟨"const float ".toList, _, rfl, by decide, ?_⟩
  show isWord '[' = false
  decide

namespace Scope

variable {scope : Scope} {name identifier : String}

/-- Array constants are named after their node and parameter. -/
lemma name_of_mem_findArrays (node : Node) (entries : List (String × Parameter)) :
    ∀ constant ∈ (findArrays node entries).constants,
      constant.name = Identifier.arrayConstant node.id constant.parameter := by
  induction entries with
  | nil =>
    intro constant hconstant
    cases hconstant
  | cons entry rest ih =>
    obtain ⟨name, parameter⟩ := entry
    unfold findArrays
    split
    · dsimp only
      split
      · intro constant hconstant
        cases hconstant
      · split
        · exact ih
        · exact ih
      · exact ih
      · intro constant hconstant
        rcases List.mem_cons.mp hconstant with rfl | hconstant
        · rfl
        · exact ih constant hconstant
    · exact ih

/-- The constant that a parameter stands for, if it is an array with entries. -/
def arrayConstant? (scope : Scope) (name : String) : Option String :=
  if (scope.type.parameter? name).map Parameter.type = some .array then
    (scope.foundArrays.constants.find? fun constant => constant.parameter == name).map
      ArrayConstant.name
  else none

/-- Where an array constant is given, a parameter for arrays is declared and found. -/
lemma exists_of_arrayConstant? (h : scope.arrayConstant? name = some identifier) :
    ∃ parameter constant, scope.type.parameter? name = some parameter ∧ parameter.type = .array ∧
      scope.foundArrays.constants.find? (fun constant => constant.parameter == name) =
        some constant ∧ constant.name = identifier := by
  unfold arrayConstant? at h
  split at h
  · next htype =>
    obtain ⟨parameter, hparameter, htype⟩ := Option.map_eq_some_iff.mp htype
    obtain ⟨constant, hconstant, hname⟩ := Option.map_eq_some_iff.mp h
    exact ⟨parameter, constant, hparameter, htype, hconstant, hname⟩
  · cases h

/-- The constant is named after the node and the parameter. -/
lemma eq_of_arrayConstant? (h : scope.arrayConstant? name = some identifier) :
    identifier = Identifier.arrayConstant scope.node.id name := by
  obtain ⟨parameter, constant, -, -, hconstant, rfl⟩ := exists_of_arrayConstant? h
  rw [name_of_mem_findArrays _ _ constant (List.mem_of_find?_eq_some hconstant)]
  have hname := List.find?_some hconstant
  rw [beq_iff_eq.mp hname]

/-- A parameter with an array constant is read as an array. -/
lemma param_of_arrayConstant? (h : scope.arrayConstant? name = some identifier)
    (index : Option String) : scope.param name index = scope.arrayParameter name index := by
  obtain ⟨parameter, constant, hparameter, htype, -, -⟩ := exists_of_arrayConstant? h
  unfold param
  rw [hparameter]
  dsimp only
  rw [htype]

/-- Arrays that are known are those that were found. -/
lemma eq_of_arrays {arrays : Arrays} (h : scope.arrays = .ok arrays) :
    arrays = scope.foundArrays := by
  unfold Scope.arrays at h
  split at h
  · cases h
  · exact (Except.ok.inj h).symm

/-- A parameter that is asked for with success stands for its constant, with the index behind it if
there is one. -/
lemma outcome_param_of_arrayConstant? (h : scope.arrayConstant? name = some identifier)
    {asked : Option String} {answer : String}
    (hanswer : (scope.param name asked).outcome = .ok answer) :
    (scope.param name none).outcome = .ok identifier ∧
      ∀ index, (scope.param name (some index)).outcome =
        .ok (identifier ++ "[" ++ index ++ "]") := by
  rw [param_of_arrayConstant? h] at hanswer
  unfold arrayParameter at hanswer
  rw [Traced.outcome_bind, Traced.outcome_liftM] at hanswer
  obtain ⟨arrays, harrays, -⟩ := bind_eq_ok_iff.mp hanswer
  obtain rfl := eq_of_arrays harrays
  have hparam : ∀ index, (scope.param name index).outcome =
      (scope.readArray scope.foundArrays name index).outcome := by
    intro index
    rw [param_of_arrayConstant? h]
    unfold arrayParameter
    rw [Traced.outcome_bind, Traced.outcome_liftM, harrays]
    rfl
  obtain ⟨parameter, constant, -, -, hconstant, rfl⟩ := exists_of_arrayConstant? h
  refine ⟨?_, fun index => ?_⟩
  · rw [hparam]
    unfold readArray
    rw [hconstant]
    rfl
  · rw [hparam]
    unfold readArray
    rw [hconstant]
    rfl

/-- The names of the arrays that are found are words. -/
lemma isName_of_mem_foundArrays {constant : ArrayConstant}
    (h : constant ∈ scope.foundArrays.constants) : Helper.IsName constant.name := by
  rw [name_of_mem_findArrays _ _ constant h]
  exact Identifier.isName_arrayConstant _ _

/-- The code of a template declares the array constants of the node. -/
lemma hasWord_templateCode {code : String} (hcode : scope.templateCode.outcome = .ok code)
    {constant : ArrayConstant} (h : constant ∈ scope.foundArrays.constants) :
    HasWord constant.name.toList none code.toList := by
  have hname := isName_of_mem_foundArrays h
  obtain ⟨declarations, rendered, hdeclarations, -, rfl⟩ := exists_of_templateCode hcode
  obtain ⟨arrays, harrays, hdeclarations⟩ := bind_eq_ok_iff.mp hdeclarations
  obtain rfl := eq_of_arrays harrays
  obtain ⟨declaration, hmem, hdeclaration⟩ := exists_ok_of_mapM_eq_ok hdeclarations h
  rw [toList_intercalate_newline]
  refine (hasWord_joinLines_iff hname.1 hname.2).mpr ⟨declaration.toList,
    List.mem_map_of_mem ?_, Literal.hasWord_arrayDeclaration hdeclaration⟩
  -- the declarations come first, whether or not the template has code
  split
  · exact hmem
  · exact List.mem_append_left _ hmem

end Scope

/-! ### What helpers are given -/

namespace Template

/-- What fills a hole stands in what fills all segments. -/
lemma exists_infix_of_concat {α : Type} {fill : α → Traced String} {segments : List (Segment α)}
    {text : String} (h : (concat fill segments).outcome = .ok text) {hole : α}
    (hhole : hole ∈ holes segments) :
    ∃ answer, (fill hole).outcome = .ok answer ∧ answer.toList <:+: text.toList := by
  obtain ⟨segment, hsegment, hsome⟩ := List.mem_filterMap.mp hhole
  cases segment with
  | literal text => cases hsome
  | hole content =>
    cases hsome
    obtain ⟨left, right, rfl⟩ := List.append_of_mem hsegment
    obtain ⟨first, second, -, hsecond, rfl⟩ := exists_of_concat_append h
    obtain ⟨answer, rest, hanswer, -, rfl⟩ := exists_of_concat_hole hsecond
    refine ⟨answer, hanswer, first.toList, rest.toList, ?_⟩
    simp only [String.toList_append, List.append_assoc]

end Template

/-- A parameter that is mentioned in a filled template was asked for. -/
lemma Scope.exists_param_of_render {scope : Scope} {template rendered : String}
    (h : (scope.render template).outcome = .ok rendered) {name : String}
    (hname : name ∈ Template.params template) :
    ∃ index answer, (scope.param name index).outcome = .ok answer := by
  obtain ⟨hole, hhole, hplaceholder⟩ : ∃ hole ∈ Template.holes (Template.segments template),
      Template.Placeholder.param name ∈ hole.placeholders :=
    List.mem_flatMap.mp (Template.mem_params_iff.mp hname)
  obtain ⟨answer, hanswer, -⟩ := Template.exists_infix_of_concat h hhole
  cases hole with
  | plain placeholder =>
    cases List.mem_singleton.mp hplaceholder
    exact ⟨none, answer, hanswer⟩
  | element outer index =>
    unfold Template.Resolver.fillHole at hanswer
    dsimp only at hanswer
    rw [Traced.outcome_bind] at hanswer
    obtain ⟨filled, hfilled, hanswer⟩ := bind_eq_ok_iff.mp hanswer
    rcases List.mem_cons.mp hplaceholder with heq | hinner
    · cases heq
      exact ⟨some filled, answer, hanswer⟩
    · obtain ⟨inner, hinner, -⟩ := Template.exists_infix_of_concat hfilled hinner
      exact ⟨none, inner, hinner⟩

/-- The array constants that the template of a node's helpers is given. -/
def HelperUser.arrayNames (user : HelperUser) : List String :=
  (Template.params user.template).filterMap user.scope.arrayConstant?

/-- They do not depend on the other nodes. -/
lemma HelperUser.arrayNames_inScene (user : HelperUser) (scene : Scene) :
    (user.inScene scene).arrayNames = user.arrayNames := rfl

namespace Scene

variable {scene : Scene} {program : Program} {user : HelperUser}

/-- The helpers of a program are made from filled templates. -/
lemma renders_of_program (h : scene.program.outcome = .ok program)
    (huser : user ∈ scene.helperUsers) : user.Renders := by
  obtain ⟨_, _, _, -, -, hhelpers, -⟩ := Scene.exists_of_program h
  rw [helpers_eq, map_eq_pure_bind, Traced.outcome_bind, Traced.outcome_mapM] at hhelpers
  obtain ⟨codes, hcodes, -⟩ := bind_eq_ok_iff.mp hhelpers
  obtain ⟨code, -, hcode⟩ := exists_ok_of_mapM_eq_ok hcodes huser
  unfold HelperUser.renamed at hcode
  rw [Traced.outcome_bind] at hcode
  obtain ⟨rendered, hrendered, -⟩ := bind_eq_ok_iff.mp hcode
  exact HelperUser.renders_of_outcome hrendered

/-- Every array constant that helpers are given is named in a section above them. -/
def HelpersClosed (scene : Scene) (head : List String) : Prop :=
  ∀ user ∈ scene.helperUsers, ∀ identifier ∈ user.arrayNames,
    ∃ part ∈ head, HasWord identifier.toList none part.toList

/-- Where nothing names an array constant, helpers are closed only if they are given none. -/
lemma helpersClosed_iff {head : List String} (hhead : ∀ part ∈ head, NamesNoArray part) :
    scene.HelpersClosed head ↔ ∀ user ∈ scene.helperUsers, user.arrayNames = [] := by
  constructor
  · intro hclosed user huser
    refine List.eq_nil_iff_forall_not_mem.mpr fun identifier hmem => ?_
    obtain ⟨part, hpart, hstands⟩ := hclosed user huser identifier hmem
    obtain ⟨name, -, hconstant⟩ := List.mem_filterMap.mp hmem
    rw [Scope.eq_of_arrayConstant? hconstant] at hstands
    exact hhead part hpart _ _ hstands
  · intro hnone user huser identifier hmem
    rw [hnone user huser] at hmem
    cases hmem

end Scene

/-! ### The scopes of array constants -/

/-- Array constants are declared in the blocks of their nodes, and helpers that are given one read a
name that no section above them holds. -/
structure Compiled.ArraysInBlocks (compiled : Compiled) (scene : Scene) (uniforms : String)
    (program : Program) : Prop where
  shader : ∃ color, compiled.shader = "\n".intercalate
    (shaderHead scene.settings uniforms program ++ program.helpers ::
      shaderTail scene.settings program color)
  /-- A template of helpers that asks for an array is given its constant. -/
  given : ∀ user ∈ scene.helperUsers, ∀ name ∈ Template.params user.template, ∀ identifier,
    user.scope.arrayConstant? name = some identifier →
      (user.scope.param name none).outcome = .ok identifier ∧
        ∀ index, (user.scope.param name (some index)).outcome =
          .ok (identifier ++ "[" ++ index ++ "]")
  /-- The constant stands in the code of the helpers. -/
  held : ∀ user ∈ scene.helperUsers, ∀ hole ∈ Template.holes (Template.segments user.template),
    ∀ name, (hole = .plain (.param name) ∨ ∃ index, hole = .element name index) →
      ∀ identifier, user.scope.arrayConstant? name = some identifier →
        identifier.toList <:+: user.code.toList
  /-- Nothing above the helpers names an array constant. -/
  above : ∀ part ∈ shaderHead scene.settings uniforms program, NamesNoArray part
  /-- The array constants of a node that runs its template stand in its block. -/
  declared : ∃ blocks, scene.blocks.outcome = .ok blocks ∧
    program.mainCode = "\n".intercalate (blocks.flatMap Block.lines) ∧
    ∀ id ∈ scene.order, ∀ scope, Scope.of? scene id = some scope →
      scope.type.emitter scene.settings = .template →
      ∀ constant ∈ scope.foundArrays.constants, constant.name ∉ scope.type.helperNames →
        ∃ block ∈ blocks, block.node = id ∧
          ∃ line ∈ block.code, HasWord constant.name.toList none line
  /-- Helpers are closed exactly if they are given no arrays. -/
  closed_iff : scene.HelpersClosed (shaderHead scene.settings uniforms program) ↔
    ∀ user ∈ scene.helperUsers, user.arrayNames = []

namespace Scene

variable {scene : Scene} {program : Program} {user : HelperUser} {name identifier : String}

/-- What the templates of helpers are given for arrays that they ask for. -/
lemma given_of_program (h : scene.program.outcome = .ok program) (huser : user ∈ scene.helperUsers)
    (hname : name ∈ Template.params user.template)
    (hconstant : user.scope.arrayConstant? name = some identifier) :
    (user.scope.param name none).outcome = .ok identifier ∧
      ∀ index, (user.scope.param name (some index)).outcome =
        .ok (identifier ++ "[" ++ index ++ "]") := by
  obtain ⟨index, answer, hanswer⟩ :=
    Scope.exists_param_of_render (renders_of_program h huser) hname
  exact Scope.outcome_param_of_arrayConstant? hconstant hanswer

/-- The constant of an array that a hole asks for stands in the code of the helpers. -/
lemma infix_code_of_program (h : scene.program.outcome = .ok program)
    (huser : user ∈ scene.helperUsers) {hole : Template.Hole}
    (hhole : hole ∈ Template.holes (Template.segments user.template))
    (hasks : hole = .plain (.param name) ∨ ∃ index, hole = .element name index)
    (hconstant : user.scope.arrayConstant? name = some identifier) :
    identifier.toList <:+: user.code.toList := by
  have hname : name ∈ Template.params user.template := by
    refine Template.mem_params_iff.mpr (List.mem_flatMap.mpr ⟨hole, hhole, ?_⟩)
    rcases hasks with rfl | ⟨index, rfl⟩
    · exact List.mem_singleton.mpr rfl
    · exact List.mem_cons_self
  obtain ⟨hplain, helement⟩ := given_of_program h huser hname hconstant
  obtain ⟨answer, hanswer, hinfix⟩ :=
    Template.exists_infix_of_concat (renders_of_program h huser) hhole
  refine List.IsInfix.trans ?_ hinfix
  rcases hasks with rfl | ⟨index, rfl⟩
  · have heq : (user.scope.param name none).outcome = .ok answer := hanswer
    rw [hplain] at heq
    cases heq
    exact List.infix_refl _
  · unfold Template.Resolver.fillHole at hanswer
    dsimp only at hanswer
    rw [Traced.outcome_bind] at hanswer
    obtain ⟨filled, -, hanswer⟩ := bind_eq_ok_iff.mp hanswer
    have heq : (user.scope.param name (some filled)).outcome = .ok answer := hanswer
    rw [helement filled] at heq
    cases heq
    simp only [String.toList_append, List.append_assoc]
    exact List.infix_append_left

end Scene

namespace Request

variable {request : Request}

/-- The uniforms that a shader declares are no array constants, if the caller's are none. -/
lemma Generation.namesNoArray_uniformText (generation : request.Generation)
    (hnames : ∀ table, request.uniforms = some table → ∀ u ∈ table.values,
      Helper.IsName u ∧ ∀ node name, u ≠ Identifier.arrayConstant node name) :
    NamesNoArray generation.uniformText := by
  refine Uniform.namesNoArray_declarations fun uniform huniform => ?_
  obtain ⟨record, hrecord, rfl⟩ := List.mem_map.mp huniform
  obtain ⟨hvalue, htype⟩ := Uniform.mem_values_of_mem_records generation.records_eq hrecord
  refine ⟨htype, ?_⟩
  rcases (isScene_of_scene generation.scene_eq).uniforms with hnamed | ⟨-, hallocated⟩
  · obtain ⟨hname, hother⟩ := hnames _ hnamed record.name hvalue
    exact ⟨hname.2, hother⟩
  · obtain ⟨id, name, heq⟩ := Uniform.exists_of_mem_values_allocate hallocated hvalue
    dsimp only
    rw [heq]
    refine ⟨(Identifier.isName_uniform id name).2, fun node parameter hsame => ?_⟩
    have hhead := Identifier.head?_arrayConstant node parameter
    rw [← hsame, Identifier.toList_uniform, List.head?_cons] at hhead
    exact absurd (Option.some.inj hhead) (by decide)

/-- An array constant of a node that runs its template stands in a line of the node's block. -/
lemma Generation.exists_line_of_array (generation : request.Generation)
    (hrenames : request.renames = none) {blocks : List Block}
    (hblocks : (generation.scene.withRenames generation.plan).blocks.outcome = .ok blocks)
    {id : String} (hid : id ∈ (generation.scene.withRenames generation.plan).order) {scope : Scope}
    (hof : Scope.of? (generation.scene.withRenames generation.plan) id = some scope)
    (hemitter : scope.type.emitter scope.scene.settings = .template)
    {constant : Scope.ArrayConstant} (hconstant : constant ∈ scope.foundArrays.constants)
    (hhelper : constant.name ∉ scope.type.helperNames) :
    ∃ block ∈ blocks, block.node = id ∧
      ∃ line ∈ block.code, HasWord constant.name.toList none line := by
  have hname := Scope.isName_of_mem_foundArrays hconstant
  have hrenamed := generation.isName_of_mem_renamesOf hrenames hof
  obtain ⟨result, hbody, hlines⟩ := Scene.exists_body_of_blocks hblocks hid hof
  obtain ⟨code, renamed, hcode, hresult, hstays⟩ := Scope.exists_renamed_of_body
    (fun rename h => (hrenamed rename h).1) (Scope.emit_of_template hemitter) hbody
  have hother : ∀ rename ∈ scope.scene.renamesOf scope.node.id,
      rename.1.toList ≠ constant.name.toList := by
    intro rename hrename heq
    have hmem := (hrenamed rename hrename).2
    rw [String.toList_inj.mp heq] at hmem
    exact hhelper hmem
  exact hlines renamed hresult _ hname.1 hname.2
    (hstays _ hname.1 hname.2 hother (Scope.hasWord_templateCode hcode hconstant))

/-- If neither the settings nor the caller's uniforms name an array constant, the constants of a
shader belong to the blocks of its nodes, and its helpers are closed exactly if they are given
none. -/
theorem arraysInBlocks_of_compile {compiled : Compiled}
    (hheader : ∀ part ∈ request.settings.header, NamesNoArray part)
    (hnames : ∀ table, request.uniforms = some table → ∀ u ∈ table.values,
      Helper.IsName u ∧ ∀ node name, u ≠ Identifier.arrayConstant node name)
    (hrenames : request.renames = none) (h : (compile request).outcome = .ok compiled) :
    ∃ generation : request.Generation,
      compiled.ArraysInBlocks (generation.scene.withRenames generation.plan)
        generation.uniformText generation.program := by
  obtain ⟨generation, color, hshader, -⟩ := exists_products_of_compile h
  have hscene := isScene_of_scene generation.scene_eq
  have hsettings : (generation.scene.withRenames generation.plan).settings = request.settings :=
    hscene.settings
  have hnamed : Variables.generate (generation.scene.withRenames generation.plan).graph
      (generation.scene.withRenames generation.plan).catalog
      (generation.scene.withRenames generation.plan).settings =
        .ok (generation.scene.withRenames generation.plan).variableNames := by
    show Variables.generate generation.scene.graph generation.scene.catalog
      generation.scene.settings = .ok generation.scene.variableNames
    rw [hscene.graph, hscene.catalog, hscene.settings]
    exact hscene.named
  have hempty : NamesNoArray "" := namesNoArray_of_not_mem (by decide)
  have habove : ∀ part ∈ shaderHead (generation.scene.withRenames generation.plan).settings
      generation.uniformText generation.program, NamesNoArray part := by
    intro part hpart
    rw [hsettings] at hpart
    rcases List.mem_append.mp hpart with hpart | hpart
    · exact hheader part hpart
    · simp only [List.mem_cons, List.not_mem_nil, or_false] at hpart
      rcases hpart with rfl | rfl | rfl | rfl
      · exact generation.namesNoArray_uniformText hnames
      · exact hempty
      · exact Scene.namesNoArray_declarations hnamed generation.program_eq
      · exact hempty
  obtain ⟨_, blocks, _, -, hblocks, -, hprogram⟩ := Scene.exists_of_program generation.program_eq
  refine ⟨generation, ⟨color, ?_⟩, ?_, ?_, habove, ⟨blocks, hblocks, ?_, ?_⟩,
    Scene.helpersClosed_iff habove⟩
  · rw [hshader, shaderText_eq, hsettings]
  · intro user huser name hname identifier hconstant
    exact Scene.given_of_program generation.program_eq huser hname hconstant
  · intro user huser hole hhole name hasks identifier hconstant
    exact Scene.infix_code_of_program generation.program_eq huser hhole hasks hconstant
  · rw [hprogram]
  · intro id hid scope hof hemitter constant hconstant hhelper
    refine generation.exists_line_of_array hrenames hblocks hid hof ?_ hconstant hhelper
    obtain ⟨_, _, -, -, rfl⟩ := Scope.of?_eq_some_iff.mp hof
    exact hemitter

/-- A type whose helper reads an entry of an array. -/
def pickedEntry : NodeType where
  id := "entry"
  displayName := "Entry"
  category := "Numbers"
  inputs := []
  outputs := [⟨"out", .float, none⟩]
  parameters := Table.ofList
    [("values", ⟨.array, .list [.int 1, .int 2], .null, .null, .null, none, none⟩)]
  mainCode := "$output.out = pick(0);"
  functions := some "float pick(int i) \x7b return $param.values[i]; \x7d"
  description := ""

/-- A node of that type with its helpers, apart from any scene. -/
def pickedUser : HelperUser where
  scope := ⟨default, ⟨"a", "entry", Table.empty, Table.empty⟩, pickedEntry⟩
  template := "float pick(int i) \x7b return $param.values[i]; \x7d"

/-- The graph of this node alone. -/
def pickedEntries : Request where
  graph := { nodes := [⟨"a", "entry", Table.empty, Table.empty⟩], wires := [] }
  catalog := ⟨Table.ofList [("entry", pickedEntry)]⟩
  settings := {}
  order := ["a"]
  uniforms := none
  renames := none

/-- The helper of the node reads a constant that is declared further down, in the block of the
node. -/
theorem arraysInBlocks_of_compile_pickedEntries :
    ∃ compiled, (compile pickedEntries).outcome = .ok compiled ∧
      ∃ generation : pickedEntries.Generation,
        compiled.ArraysInBlocks (generation.scene.withRenames generation.plan)
          generation.uniformText generation.program ∧
        (∃ user ∈ (generation.scene.withRenames generation.plan).helperUsers,
          user.arrayNames = ["array_a_values"]) ∧
        ¬(generation.scene.withRenames generation.plan).HelpersClosed
          (shaderHead (generation.scene.withRenames generation.plan).settings
            generation.uniformText generation.program) := by
  have hcompiles : (compile pickedEntries).outcome.toOption.isSome = true := by decide +kernel
  have hcompiled := eq_ok_of_isSome_toOption default hcompiles
  have hnames : ∀ table, pickedEntries.uniforms = some table → ∀ u ∈ table.values,
      Helper.IsName u ∧ ∀ node name, u ≠ Identifier.arrayConstant node name := by
    intro table htable
    cases htable
  obtain ⟨generation, harrays⟩ :=
    arraysInBlocks_of_compile namesNoArray_header hnames rfl hcompiled
  have hscene := isScene_of_scene generation.scene_eq
  have huser : pickedUser.inScene (generation.scene.withRenames generation.plan) ∈
      (generation.scene.withRenames generation.plan).helperUsers := by
    refine Scene.mem_helperUsers_iff.mpr ⟨List.mem_append_left _ ?_, ?_, rfl⟩
    · show "a" ∈ generation.scene.order
      rw [hscene.order]
      exact List.mem_singleton.mpr rfl
    · refine Scope.of?_eq_some_iff.mpr ⟨pickedUser.scope.node, pickedEntry, ?_, ?_, rfl⟩
      · show generation.scene.graph.node? "a" = _
        rw [hscene.graph]
        rfl
      · show generation.scene.catalog.find? "entry" = _
        rw [hscene.catalog]
        rfl
  have hgiven : pickedUser.arrayNames = ["array_a_values"] := by decide +kernel
  refine ⟨_, hcompiled, generation, harrays, ⟨_, huser, ?_⟩, fun hclosed => ?_⟩
  · rw [HelperUser.arrayNames_inScene, hgiven]
  · have hnone := harrays.closed_iff.mp hclosed _ huser
    rw [HelperUser.arrayNames_inScene, hgiven] at hnone
    cases hnone

end Request

end ShaderLoom
