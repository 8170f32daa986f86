import ShaderLoom.Proofs.ArrayScopes
import ShaderLoom.Proofs.AudioOutputs

/-!
# Names in generated code

Generated code names three kinds of things after nodes: variables of outputs, constants of arrays
and uniforms.  All these names are identifiers of ASCII letters, digits and underscores, and no name
of one kind is a name of another.  A variable or constant is put together by underscores, which may
also stand in the cleaned id of its node.  But where the names of outputs and parameters are made of
letters and digits, as they are in the standard catalog, the last underscore tells where the id
ends; so names coincide exactly when outputs or parameters have the same name and the cleaned ids
are the same.
-/

namespace ShaderLoom

namespace Identifier

/-! ### Characters of names -/

/-- A text of letters, digits and underscores. -/
def AllPlain (text : List Char) : Prop := ∀ c ∈ text, c.isAlphanum = true ∨ c = '_'

/-- An identifier: a letter or an underscore, and behind it letters, digits and underscores. -/
def IsIdentifier (name : String) : Prop :=
  ∃ first rest, name.toList = first :: rest ∧ (first.isAlpha = true ∨ first = '_') ∧ AllPlain rest

instance (text : List Char) : Decidable (AllPlain text) :=
  decidable_of_iff (text.all (fun c => c.isAlphanum || c == '_') = true) (by simp [AllPlain])

lemma allPlain_append {a b : List Char} : AllPlain (a ++ b) ↔ AllPlain a ∧ AllPlain b :=
  List.forall_mem_append

/-- A cleaned name is plain. -/
lemma allPlain_clean (name : String) : AllPlain (clean name).toList := by
  intro c hc
  unfold clean at hc
  rw [String.toList_ofList] at hc
  obtain ⟨d, -, rfl⟩ := List.mem_map.mp hc
  unfold cleanChar
  split
  · next h => exact Or.inl h
  · exact Or.inr rfl

/-- A stem is plain. -/
lemma allPlain_stem (node : String) : AllPlain (stem node).toList := by
  have hletter : AllPlain "n".toList := by decide
  unfold stem guardDigit
  split
  · split
    · rw [String.toList_append]
      exact allPlain_append.mpr ⟨hletter, allPlain_clean node⟩
    · exact allPlain_clean node
  · exact allPlain_clean node

/-- An identifier with a plain text behind it is an identifier. -/
lemma IsIdentifier.append {a b : String} (ha : IsIdentifier a) (hb : AllPlain b.toList) :
    IsIdentifier (a ++ b) := by
  obtain ⟨first, rest, hchars, hfirst, hrest⟩ := ha
  refine ⟨first, rest ++ b.toList, ?_, hfirst, allPlain_append.mpr ⟨hrest, hb⟩⟩
  rw [String.toList_append, hchars, List.cons_append]

/-- Two cleaned names behind an identifier, with an underscore between them. -/
lemma IsIdentifier.pair {start : String} (hstart : IsIdentifier start) (node name : String) :
    IsIdentifier (start ++ clean node ++ "_" ++ clean name) :=
  ((hstart.append (allPlain_clean node)).append (by decide)).append (allPlain_clean name)

/-- The variable of an output is an identifier. -/
lemma isIdentifier_outputVariable (node port : String) :
    IsIdentifier (outputVariable node port) :=
  IsIdentifier.pair ⟨'n', "ode_".toList, by decide, Or.inl (by decide), by decide⟩ node port

/-- The name of an array constant is an identifier. -/
lemma isIdentifier_arrayConstant (node parameter : String) :
    IsIdentifier (arrayConstant node parameter) :=
  IsIdentifier.pair ⟨'a', "rray_".toList, by decide, Or.inl (by decide), by decide⟩ node parameter

/-- The name of a uniform is an identifier. -/
lemma isIdentifier_uniform (node parameter : String) : IsIdentifier (uniform node parameter) :=
  ⟨'u', (stem node).toList ++ slot parameter, toList_uniform node parameter, Or.inl (by decide),
    allPlain_append.mpr ⟨allPlain_stem node, fun _ hc => Or.inl (isAlphanum_of_mem_slot hc)⟩⟩

/-- The names of uniforms begin with the same letter. -/
lemma head?_uniform (node parameter : String) :
    (uniform node parameter).toList.head? = some 'u' := by
  rw [toList_uniform, List.head?_cons]

/-- Names that begin with different letters are different. -/
lemma ne_of_head? {a b : String} {c d : Char} (ha : a.toList.head? = some c)
    (hb : b.toList.head? = some d) (hne : c ≠ d) : a ≠ b := by
  rintro rfl
  rw [ha] at hb
  exact hne (Option.some.inj hb)

/-! ### Cleaning -/

/-- A cleaned character stays as it is. -/
lemma cleanChar_cleanChar (c : Char) : cleanChar (cleanChar c) = cleanChar c := by
  unfold cleanChar
  split
  · rfl
  · rfl

/-- A cleaned name stays as it is. -/
lemma clean_clean (name : String) : clean (clean name) = clean name := by
  unfold clean
  rw [String.toList_ofList, List.map_map]
  exact congrArg String.ofList (List.map_congr_left fun c _ => cleanChar_cleanChar c)

/-- Cleaning keeps the length of a name. -/
lemma length_clean (name : String) : (clean name).length = name.length := by
  unfold clean
  rw [String.length_ofList, List.length_map, String.length_toList]

end Identifier

/-! ### Variables of a graph -/

/-- Where outputs have plain names, two of them share a variable exactly when they have the same
name and the cleaned ids of their nodes are the same. -/
lemma Variables.lookup_eq_lookup_iff {graph : Graph} {catalog : Catalog} {settings : Settings}
    {table : Variables} (hnames : catalog.NamesPlain)
    (hgenerate : generate graph catalog settings = .ok table)
    {node port node' port' name name' : String} (hlookup : table.lookup node port = some name)
    (hlookup' : table.lookup node' port' = some name') :
    name = name' ↔ Identifier.clean node = Identifier.clean node' ∧ port = port' := by
  obtain ⟨a, type, ⟨-, htype, ports, hports, hport⟩, -, rfl⟩ :=
    exists_exposes_of_lookup hgenerate hlookup
  obtain ⟨b, type', ⟨-, htype', ports', hports', hport'⟩, -, rfl⟩ :=
    exists_exposes_of_lookup hgenerate hlookup'
  exact Identifier.pair_eq_iff (hnames.isAlphanumeric htype hports hport)
    (hnames.isAlphanumeric htype' hports' hport')

namespace Identifier

/-- What can be told from the names that are made for two nodes, and for an output or a parameter of
each. -/
structure ToldApart (node name node' name' : String) : Prop where
  identifiers : IsIdentifier (outputVariable node name) ∧ IsIdentifier (arrayConstant node name) ∧
    IsIdentifier (uniform node name)
  variable_ne_constant : outputVariable node name ≠ arrayConstant node' name'
  variable_ne_uniform : outputVariable node name ≠ uniform node' name'
  constant_ne_uniform : arrayConstant node name ≠ uniform node' name'
  clean_clean : clean (clean node) = clean node
  length_clean : (clean node).length = node.length
  variable_eq_iff : IsAlphanumeric name → IsAlphanumeric name' →
    (outputVariable node name = outputVariable node' name' ↔
      clean node = clean node' ∧ name = name')
  constant_eq_iff : IsAlphanumeric name → IsAlphanumeric name' →
    (arrayConstant node name = arrayConstant node' name' ↔
      clean node = clean node' ∧ name = name')
  /-- In a graph over the standard catalog, variables of outputs that have the same name coincide
  exactly when the cleaned ids are the same, and all other variables differ. -/
  standard_eq_iff : ∀ graph settings table variableName variableName',
    Variables.generate graph Catalog.standard settings = .ok table →
    table.lookup node name = some variableName → table.lookup node' name' = some variableName' →
      (variableName = variableName' ↔ clean node = clean node' ∧ name = name')

/-- Names of nodes are told apart as far as the cleaned ids of the nodes are. -/
theorem toldApart (node name node' name' : String) : ToldApart node name node' name' where
  identifiers := ⟨isIdentifier_outputVariable node name, isIdentifier_arrayConstant node name,
    isIdentifier_uniform node name⟩
  variable_ne_constant := ne_of_head? (head?_outputVariable node name)
    (head?_arrayConstant node' name') (by decide)
  variable_ne_uniform := ne_of_head? (head?_outputVariable node name) (head?_uniform node' name')
    (by decide)
  constant_ne_uniform := ne_of_head? (head?_arrayConstant node name) (head?_uniform node' name')
    (by decide)
  clean_clean := clean_clean node
  length_clean := length_clean node
  variable_eq_iff hname hname' := pair_eq_iff hname hname'
  constant_eq_iff hname hname' := pair_eq_iff hname hname'
  standard_eq_iff _ _ _ _ _ hgenerate hlookup hlookup' :=
    Variables.lookup_eq_lookup_iff Catalog.namesPlain_standard hgenerate hlookup hlookup'

/-- Two nodes of several outputs, whose ids differ in a character that is not kept. -/
def twinSplits : Graph where
  nodes :=
    [⟨"a-b", "split-vector", Table.empty, Table.empty⟩,
      ⟨"a_b", "split-vector", Table.empty, Table.empty⟩]
  wires := []

/-- The two nodes share the variables of all outputs, but each output has a variable of its own. -/
theorem toldApart_twinSplits : ∃ table,
    Variables.generate twinSplits Catalog.standard {} = .ok table ∧
      table.lookup "a-b" "x" = some "node_a_b_x" ∧ table.lookup "a_b" "x" = some "node_a_b_x" ∧
      table.lookup "a_b" "y" = some "node_a_b_y" ∧ clean "a-b" = clean "a_b" ∧
      "node_a_b_x" ≠ "node_a_b_y" := by
  have hfound : ((Variables.generate twinSplits Catalog.standard {}).toOption.map fun table =>
      (table.lookup "a-b" "x", table.lookup "a_b" "x", table.lookup "a_b" "y")) =
        some (some "node_a_b_x", some "node_a_b_x", some "node_a_b_y") := by decide +kernel
  cases htable : Variables.generate twinSplits Catalog.standard {} with
  | error fault =>
    rw [htable] at hfound
    cases hfound
  | ok table =>
    rw [htable] at hfound
    obtain ⟨hx, hx', hy⟩ : table.lookup "a-b" "x" = some "node_a_b_x" ∧
        table.lookup "a_b" "x" = some "node_a_b_x" ∧
        table.lookup "a_b" "y" = some "node_a_b_y" := by simpa using Option.some.inj hfound
    have hsame := (toldApart "a-b" "x" "a_b" "x").standard_eq_iff _ _ _ _ _ htable hx hx'
    have hother := (toldApart "a-b" "x" "a_b" "y").standard_eq_iff _ _ _ _ _ htable hx hy
    exact ⟨table, rfl, hx, hx', hy, (hsame.mp rfl).1, fun h => absurd (hother.mp h).2 (by decide)⟩

end Identifier

end ShaderLoom
