import Mathlib.Data.List.Nodup
import ShaderLoom.Proofs.AllocatedUniforms
import ShaderLoom.Proofs.Compilability

/-!
# Names of uniforms

The name of a uniform is put together from a stem, which comes from the id of the node, and a slot,
which comes from the name of the parameter or output.  Nothing separates the two, so a name can be
read in one way only because no slot ends with another: that is a property of the names that a
catalog uses.  Where it holds, two uniforms share a name exactly when their slots are the same and
their nodes have the same stem.  Different ids may well have the same stem.

A shared name is still declared only once, since the slot also tells the type.
-/

namespace ShaderLoom

open Text

/-! ### Stems and slots -/

namespace Identifier

/-- What the id of a node brings to the names of its uniforms. -/
def stem (node : String) : String := guardDigit (clean node)

/-- What the name of a parameter or output brings to the name of its uniform. -/
def slot (name : String) : List Char :=
  match name.toList.filter Char.isAlphanum with
  | [] => []
  | c :: rest => c.toUpper :: rest

/-- The slot of a name is what is left of it in the name of a uniform. -/
lemma toList_capitalize_squeeze (name : String) :
    (capitalize (squeeze name)).toList = slot name := by
  unfold capitalize squeeze slot
  rw [String.toList_ofList]
  cases name.toList.filter Char.isAlphanum with
  | nil => rfl
  | cons c rest => exact String.toList_ofList

/-- The name of a uniform is a letter, the stem of the id and the slot. -/
lemma toList_uniform (node name : String) :
    (uniform node name).toList = 'u' :: ((stem node).toList ++ slot name) := by
  have hu : "u".toList = ['u'] := by decide
  show (("u" ++ stem node) ++ capitalize (squeeze name)).toList = _
  rw [String.toList_append, String.toList_append, List.append_assoc, hu, List.singleton_append,
    toList_capitalize_squeeze]

lemma allWord_stem (node : String) : AllWord (stem node).toList := by
  have hclean : AllWord (clean node).toList := allWord_clean node
  unfold stem guardDigit
  split
  · split
    · rw [String.toList_append]
      exact allWord_append.mpr ⟨allWord_cons.mpr ⟨by decide, allWord_nil⟩, hclean⟩
    · exact hclean
  · exact hclean

/-- A letter or digit in upper case is a letter or digit. -/
lemma isAlphanum_toUpper {c : Char} (h : c.isAlphanum = true) : c.toUpper.isAlphanum = true := by
  have hall : ∀ n < 0x80, (Char.ofNat n).isAlphanum = true →
      (Char.ofNat n).toUpper.isAlphanum = true := by decide +kernel
  have hascii : c.toNat < 0x80 := by
    have hcodes := isAlphanum_iff.mp h
    omega
  have hc := hall c.toNat hascii
  rw [Char.ofNat_toNat] at hc
  exact hc h

/-- A slot has letters and digits only. -/
lemma isAlphanum_of_mem_slot {name : String} {c : Char} (h : c ∈ slot name) :
    c.isAlphanum = true := by
  have halphanum : ∀ c ∈ name.toList.filter Char.isAlphanum, c.isAlphanum = true :=
    fun c hc => (List.mem_filter.mp hc).2
  unfold slot at h
  split at h
  · cases h
  · next first rest hchars =>
    rw [hchars] at halphanum
    rcases List.mem_cons.mp h with rfl | h
    · exact isAlphanum_toUpper (halphanum first List.mem_cons_self)
    · exact halphanum c (List.mem_cons_of_mem first h)

lemma allWord_slot (name : String) : AllWord (slot name) :=
  fun _ hc => isWord_of_isAlphanum (isAlphanum_of_mem_slot hc)

/-- The name of a uniform is a word. -/
theorem isName_uniform (node name : String) : Helper.IsName (uniform node name) := by
  unfold Helper.IsName
  rw [toList_uniform]
  exact ⟨List.cons_ne_nil _ _, allWord_cons.mpr ⟨by decide,
    allWord_append.mpr ⟨allWord_stem node, allWord_slot name⟩⟩⟩

/-- The slot of a name that is made of letters and digits. -/
lemma slot_of_alphanum {name : String} {c : Char} {rest : List Char} (h : name.toList = c :: rest)
    (hall : ∀ d ∈ name.toList, d.isAlphanum = true) : slot name = c.toUpper :: rest := by
  unfold slot
  rw [List.filter_eq_self.mpr hall, h]

/-- The name of a uniform ends in the slot. -/
lemma slot_suffix_uniform (node name : String) : slot name <:+ (uniform node name).toList := by
  rw [toList_uniform]
  exact ⟨'u' :: (stem node).toList, rfl⟩

end Identifier

/-! ### Outputs of analyzers -/

/-- The two families of outputs of an analyzer, with their slots. -/
def analyzerFamilies : List (String × String) := [("band", "Band"), ("remap", "Remap")]

/-- An output of an analyzer belongs to a family and is told apart there by digits. -/
lemma exists_family_of_mem_analyzerPorts {count : Nat} {port : String}
    (h : port ∈ analyzerPorts count) :
    ∃ family ∈ analyzerFamilies, ∃ digits : List Char, digits ≠ [] ∧
      (∀ c ∈ digits, c.isDigit = true) ∧ port.toList = family.1.toList ++ digits ∧
      Identifier.slot port = family.2.toList ++ digits := by
  have hdigits : ∀ n : Nat, (toString n).toList ≠ [] ∧
      ∀ c ∈ (toString n).toList, c.isDigit = true := by
    intro n
    have htoDigits : (toString n).toList = Nat.toDigits 10 n := by simp
    rw [htoDigits]
    exact ⟨Nat.toDigits_ne_nil, fun c hc => Nat.isDigit_of_mem_toDigits (by decide) (by decide) hc⟩
  have hport : ∀ (start : String) (c : Char) (rest : List Char) (n : Nat),
      start.toList = c :: rest → start.toList.all Char.isAlphanum = true →
      (start ++ toString n).toList = start.toList ++ (toString n).toList ∧
        Identifier.slot (start ++ toString n) =
          c.toUpper :: rest ++ (toString n).toList := by
    intro start c rest n hstart halphanum
    have happend : (start ++ toString n).toList = start.toList ++ (toString n).toList :=
      String.toList_append
    refine ⟨happend, ?_⟩
    refine Identifier.slot_of_alphanum (by rw [happend, hstart]; rfl) fun d hd => ?_
    rw [happend] at hd
    rcases List.mem_append.mp hd with hd | hd
    · exact List.all_eq_true.mp halphanum d hd
    · unfold Char.isAlphanum
      rw [(hdigits n).2 d hd, Bool.or_true]
  unfold analyzerPorts at h
  rcases List.mem_append.mp h with h | h
  · obtain ⟨n, -, rfl⟩ := List.mem_map.mp h
    obtain ⟨hchars, hslot⟩ := hport "band" 'b' ['a', 'n', 'd'] n (by decide) (by decide)
    exact ⟨("band", "Band"), by decide, _, (hdigits n).1, (hdigits n).2, hchars, hslot⟩
  · obtain ⟨n, -, rfl⟩ := List.mem_map.mp h
    obtain ⟨hchars, hslot⟩ :=
      hport "remap" 'r' ['e', 'm', 'a', 'p'] n (by decide) (by decide)
    exact ⟨("remap", "Remap"), by decide, _, (hdigits n).1, (hdigits n).2, hchars, hslot⟩

/-! ### Catalogs whose slots can be told apart -/

namespace Catalog

/-- The names of a catalog that may have uniforms, outputs of analyzers apart. -/
def slotNames (catalog : Catalog) (settings : Settings) : List String :=
  (catalog.types.values.flatMap fun type =>
    (if type.id = settings.audioFileType then type.outputs.map Port.name else []) ++
      (type.parameters.entries.filter fun entry =>
        entry.2.type != .array && entry.2.type != .string &&
          !Uniform.isHostParameter type settings entry.1).map Prod.fst).eraseDups

/-- The types that a catalog gives to uniforms, by the names that they stand for. -/
def slotTypes (catalog : Catalog) (settings : Settings) : List (String × String) :=
  (catalog.types.values.flatMap fun type =>
    (if type.id = settings.audioFileType then
      type.outputs.map fun port => (port.name, "float") else []) ++
      (type.parameters.entries.filter fun entry => entry.2.type != .array).map fun entry =>
        (entry.1, entry.2.type.uniformKeyword)).eraseDups

/-- Whether a text ends with something else than a digit. -/
def endsPlain (text : List Char) : Bool := text.getLast?.any fun c => !c.isDigit

/-- Names of uniforms can be read from behind, and tell the types of their uniforms. -/
structure SlotsApart (catalog : Catalog) (settings : Settings) : Prop where
  /-- No slot ends with another. -/
  apart : ∀ a ∈ catalog.slotNames settings, ∀ b ∈ catalog.slotNames settings,
    Identifier.slot a <:+ Identifier.slot b → a = b
  /-- Nor does a uniform that every shader has. -/
  reserved : ∀ name ∈ [settings.resolutionUniform, settings.timeUniform],
    endsPlain name.toList = true ∧
      ∀ a ∈ catalog.slotNames settings, ¬Identifier.slot a <:+ name.toList
  /-- Digits at the end are left to the outputs of analyzers. -/
  plain : ∀ a ∈ catalog.slotNames settings, endsPlain (Identifier.slot a) = true
  plainTypes : ∀ a ∈ catalog.slotTypes settings, endsPlain a.1.toList = true
  typed : ∀ a ∈ catalog.slotTypes settings, ∀ b ∈ catalog.slotTypes settings,
    a.1 = b.1 → a.2 = b.2

/-- The names that the standard types give slots to. -/
lemma slotNames_standard (depth : Nat) : Catalog.standard.slotNames (.standard depth) =
    ["value", "x", "y", "z", "currentTime", "duration", "isPlaying", "outputType", "inMin", "inMax",
      "outMin", "outMax", "fbmScale", "fbmOctaves", "fbmLacunarity", "fbmGain", "fbmTimeSpeed",
      "fbmIntensity", "fbmTimeOffset", "turbulenceScale", "turbulenceStrength",
      "turbulenceIterations", "turbulenceTimeSpeed", "turbulenceTimeOffset", "stopCount"] := by
  show Catalog.standard.slotNames {} = _
  decide +kernel

/-- The names of the standard catalog are such names. -/
lemma slotsApart_standard (depth : Nat) : Catalog.standard.SlotsApart (.standard depth) where
  apart := by
    rw [slotNames_standard]
    decide +kernel
  reserved := by
    rw [slotNames_standard]
    show ∀ name ∈ ["uResolution", "uTime"], _
    decide +kernel
  plain := by
    rw [slotNames_standard]
    decide +kernel
  plainTypes := by
    show ∀ a ∈ Catalog.standard.slotTypes {}, _
    decide +kernel
  typed := by
    show ∀ a ∈ Catalog.standard.slotTypes {}, ∀ b ∈ Catalog.standard.slotTypes {}, _
    decide +kernel

/-- A name that may have a uniform. -/
def IsSlot (catalog : Catalog) (settings : Settings) (name : String) : Prop :=
  name ∈ catalog.slotNames settings ∨ ∃ count, name ∈ analyzerPorts count

variable {catalog : Catalog} {settings : Settings} {name name' : String}

/-- How a text ends shows at each of its ends that is not empty. -/
lemma endsPlain_of_suffix {a b : List Char} (hne : a ≠ []) (h : a <:+ b) :
    endsPlain a = endsPlain b := by
  obtain ⟨start, hb⟩ := h
  unfold endsPlain
  rw [← hb, List.getLast?_append_of_ne_nil _ hne]

/-- An output of an analyzer and its slot end with a digit. -/
lemma endsPlain_of_mem_analyzerPorts {count : Nat} {port : String}
    (h : port ∈ analyzerPorts count) :
    endsPlain port.toList = false ∧ endsPlain (Identifier.slot port) = false ∧
      Identifier.slot port ≠ [] := by
  obtain ⟨family, -, digits, hne, hdigits, hport, hslot⟩ := exists_family_of_mem_analyzerPorts h
  obtain ⟨start, c, rfl⟩ := (List.eq_nil_or_concat digits).resolve_left hne
  have hc : c.isDigit = true := hdigits c (by simp)
  unfold endsPlain
  rw [hport, hslot]
  simp [hc]

/-- The slots of a catalog are not empty. -/
lemma slot_ne_nil (happart : catalog.SlotsApart settings) (h : name ∈ catalog.slotNames settings) :
    Identifier.slot name ≠ [] := by
  intro hnil
  have hplain := happart.plain name h
  unfold endsPlain at hplain
  rw [hnil] at hplain
  cases hplain

/-- Read from behind, the slot of a family begins with a letter. -/
lemma notStarting_isDigit_reverse_family {family : String × String}
    (hfamily : family ∈ analyzerFamilies) (rest : List Char) :
    NotStarting Char.isDigit (family.2.toList.reverse ++ rest) := by
  have hlast : ∀ family ∈ analyzerFamilies,
      family.2.toList.reverse.head?.any (fun c => !c.isDigit) = true := by decide
  have hfirst := hlast family hfamily
  cases hchars : family.2.toList.reverse with
  | nil =>
    rw [hchars] at hfirst
    cases hfirst
  | cons c chars =>
    rw [hchars] at hfirst
    rw [List.cons_append, notStarting_cons]
    simpa using hfirst

/-- No output of an analyzer ends with another. -/
lemma eq_of_suffix_of_mem_analyzerPorts {count count' : Nat} (hname : name ∈ analyzerPorts count)
    (hname' : name' ∈ analyzerPorts count')
    (h : Identifier.slot name <:+ Identifier.slot name') : name = name' := by
  obtain ⟨family, hfamily, digits, -, hdigits, hport, hslot⟩ :=
    exists_family_of_mem_analyzerPorts hname
  obtain ⟨family', hfamily', digits', -, hdigits', hport', hslot'⟩ :=
    exists_family_of_mem_analyzerPorts hname'
  obtain ⟨start, hstart⟩ := h
  rw [hslot, hslot'] at hstart
  -- read from the end, the digits come first
  have hreverse := congrArg List.reverse hstart
  simp only [List.reverse_append, List.append_assoc] at hreverse
  have hletters' := notStarting_isDigit_reverse_family hfamily' []
  rw [List.append_nil] at hletters'
  obtain ⟨heq, hrest⟩ := run_unique hreverse (fun c hc => hdigits c (List.mem_reverse.mp hc))
    (notStarting_isDigit_reverse_family hfamily _)
    (fun c hc => hdigits' c (List.mem_reverse.mp hc)) hletters'
  have hsuffix : family.2.toList <:+ family'.2.toList := by
    refine ⟨start, List.reverse_injective ?_⟩
    rw [List.reverse_append, hrest]
  have hfamilies : ∀ a ∈ analyzerFamilies, ∀ b ∈ analyzerFamilies,
      a.2.toList <:+ b.2.toList → a = b := by decide
  have hsame := hfamilies family hfamily family' hfamily' hsuffix
  apply String.toList_inj.mp
  rw [hport, hport', hsame, List.reverse_injective heq]

/-- No slot ends with another, outputs of analyzers included. -/
theorem SlotsApart.eq_of_suffix (happart : catalog.SlotsApart settings)
    (hname : catalog.IsSlot settings name) (hname' : catalog.IsSlot settings name')
    (h : Identifier.slot name <:+ Identifier.slot name') : name = name' := by
  rcases hname with hname | ⟨count, hname⟩ <;> rcases hname' with hname' | ⟨count', hname'⟩
  · exact happart.apart name hname name' hname' h
  · -- one ends with a digit and the other does not
    have hplain := endsPlain_of_suffix (slot_ne_nil happart hname) h
    rw [happart.plain name hname, (endsPlain_of_mem_analyzerPorts hname').2.1] at hplain
    cases hplain
  · have hplain := endsPlain_of_suffix (endsPlain_of_mem_analyzerPorts hname).2.2 h
    rw [happart.plain name' hname', (endsPlain_of_mem_analyzerPorts hname).2.1] at hplain
    cases hplain
  · exact eq_of_suffix_of_mem_analyzerPorts hname hname' h

/-- Two names of uniforms are the same exactly when they have the same slot and the same stem. -/
theorem SlotsApart.uniform_eq_iff (happart : catalog.SlotsApart settings)
    (hname : catalog.IsSlot settings name) (hname' : catalog.IsSlot settings name')
    {node node' : String} : Identifier.uniform node name = Identifier.uniform node' name' ↔
      name = name' ∧ Identifier.stem node = Identifier.stem node' := by
  constructor
  · intro h
    have hsuffix := Identifier.slot_suffix_uniform node name
    rw [h] at hsuffix
    have heq : name = name' := by
      rcases List.suffix_or_suffix_of_suffix hsuffix
        (Identifier.slot_suffix_uniform node' name') with hle | hge
      · exact happart.eq_of_suffix hname hname' hle
      · exact (happart.eq_of_suffix hname' hname hge).symm
    subst heq
    have hchars := congrArg String.toList h
    rw [Identifier.toList_uniform, Identifier.toList_uniform, List.cons.injEq] at hchars
    exact ⟨rfl, String.toList_inj.mp (List.append_cancel_right hchars.2)⟩
  · rintro ⟨rfl, hstem⟩
    apply String.toList_inj.mp
    rw [Identifier.toList_uniform, Identifier.toList_uniform, hstem]

/-- No uniform has the name of a uniform that every shader has. -/
lemma SlotsApart.uniform_ne (happart : catalog.SlotsApart settings)
    (hname : catalog.IsSlot settings name) (node : String) {global : String}
    (hglobal : global ∈ [settings.resolutionUniform, settings.timeUniform]) :
    Identifier.uniform node name ≠ global := by
  rintro rfl
  obtain ⟨hplain, hnot⟩ := happart.reserved _ hglobal
  have hsuffix := Identifier.slot_suffix_uniform node name
  rcases hname with hname | ⟨count, hname⟩
  · exact hnot name hname hsuffix
  · obtain ⟨-, hdigit, hne⟩ := endsPlain_of_mem_analyzerPorts hname
    rw [← endsPlain_of_suffix hne hsuffix, hdigit] at hplain
    cases hplain

/-- A type that a uniform may have that stands for a name. -/
def HasType (catalog : Catalog) (settings : Settings) (name keyword : String) : Prop :=
  (name, keyword) ∈ catalog.slotTypes settings ∨
    keyword = "float" ∧ ∃ count, name ∈ analyzerPorts count

/-- A name tells the type. -/
lemma SlotsApart.type_unique (happart : catalog.SlotsApart settings) {keyword keyword' : String}
    (h : catalog.HasType settings name keyword) (h' : catalog.HasType settings name keyword') :
    keyword = keyword' := by
  have hdigit : ∀ {keyword count}, (name, keyword) ∈ catalog.slotTypes settings →
      name ∉ analyzerPorts count := by
    intro keyword count htype hport
    have hplain := happart.plainTypes _ htype
    rw [(endsPlain_of_mem_analyzerPorts hport).1] at hplain
    cases hplain
  rcases h with h | ⟨rfl, count, hport⟩ <;> rcases h' with h' | ⟨rfl, count', hport'⟩
  · exact happart.typed _ h _ h' rfl
  · exact absurd hport' (hdigit h)
  · exact absurd hport (hdigit h')
  · rfl

lemma mem_values_of_find? {id : String} {type : NodeType} (h : catalog.find? id = some type) :
    type ∈ catalog.types.values :=
  List.mem_map.mpr ⟨(id, type), Table.mem_entries_of_find? h, rfl⟩

end Catalog

/-! ### The table of uniforms -/

namespace Uniform

variable {graph : Graph} {catalog : Catalog} {settings : Settings} {table : Table String}

/-- The outputs that the host measures are slots, and carry numbers. -/
lemma isSlot_of_mem_audioOutputs {node : Node} {type : NodeType}
    (htype : type ∈ catalog.types.values) {outputs : List String}
    (h : audioOutputs node type settings = .ok outputs) {name : String} (hname : name ∈ outputs) :
    catalog.IsSlot settings name ∧ catalog.HasType settings name "float" := by
  unfold audioOutputs at h
  split at h
  · split at h
    · next hfile =>
      cases h
      obtain ⟨port, hport, rfl⟩ := List.mem_map.mp hname
      refine ⟨Or.inl (List.mem_eraseDups.mpr (List.mem_flatMap.mpr ⟨type, htype, ?_⟩)),
        Or.inl (List.mem_eraseDups.mpr (List.mem_flatMap.mpr ⟨type, htype, ?_⟩))⟩
      · rw [if_pos hfile]
        exact List.mem_append_left _ (List.mem_map_of_mem hport)
      · rw [if_pos hfile]
        exact List.mem_append_left _ (List.mem_map.mpr ⟨port, hport, rfl⟩)
    · split at h
      · obtain ⟨bands, -, h⟩ := bind_eq_ok_iff.mp h
        cases h
        exact ⟨Or.inr ⟨_, hname⟩, Or.inr ⟨rfl, _, hname⟩⟩
      · cases h
        cases hname
  · cases h
    cases hname

/-- A parameter that is no array carries a value of its type. -/
lemma hasType_of_mem_parameters {type : NodeType} (htype : type ∈ catalog.types.values)
    {name : String} {parameter : Parameter} (h : (name, parameter) ∈ type.parameters.entries)
    (harray : parameter.type ≠ .array) :
    catalog.HasType settings name parameter.type.uniformKeyword := by
  refine Or.inl (List.mem_eraseDups.mpr (List.mem_flatMap.mpr ⟨type, htype, ?_⟩))
  refine List.mem_append_right _ (List.mem_map.mpr ⟨(name, parameter), ?_, rfl⟩)
  exact List.mem_filter.mpr ⟨h, bne_iff_ne.mpr harray⟩

/-- A parameter or output of a node that has a uniform. -/
def IsPlace (graph : Graph) (catalog : Catalog) (settings : Settings) (id name : String) : Prop :=
  ∃ node ∈ graph.nodes, node.id = id ∧ ∃ type, catalog.find? node.type = some type ∧
    ∃ names, namesOf graph settings node type = .ok names ∧ name ∈ names

/-- A place has a slot of the catalog. -/
lemma isSlot_of_isPlace {id name : String} (h : IsPlace graph catalog settings id name) :
    catalog.IsSlot settings name := by
  obtain ⟨node, -, -, type, htype, names, hnames, hname⟩ := h
  have hvalues := Catalog.mem_values_of_find? htype
  unfold namesOf at hnames
  obtain ⟨outputs, houtputs, hnames⟩ := bind_eq_ok_iff.mp hnames
  cases hnames
  rcases List.mem_append.mp hname with hname | hname
  · exact (isSlot_of_mem_audioOutputs hvalues houtputs hname).1
  · obtain ⟨⟨name, parameter⟩, hentry, rfl⟩ := List.mem_map.mp hname
    obtain ⟨hentry, huniform⟩ := List.mem_filter.mp hentry
    refine Or.inl (List.mem_eraseDups.mpr (List.mem_flatMap.mpr ⟨type, hvalues, ?_⟩))
    refine List.mem_append_right _ (List.mem_map.mpr ⟨(name, parameter), ?_, rfl⟩)
    refine List.mem_filter.mpr ⟨hentry, ?_⟩
    unfold hasUniform at huniform
    simp only [Bool.and_eq_true] at huniform ⊢
    exact huniform.1

/-- The name of a place has no dot. -/
lemma dot_not_mem_of_isPlace (hdots : catalog.DotFree) {id name : String}
    (h : IsPlace graph catalog settings id name) : '.' ∉ name.toList := by
  obtain ⟨node, -, -, type, htype, names, hnames, hname⟩ := h
  exact dot_not_mem_of_mem_namesOf hdots htype hnames hname

/-- The entries of a graph are those of its places. -/
lemma mem_entriesOf_iff {entry : String × String} :
    entry ∈ graph.nodes.flatMap (entriesOf graph catalog settings) ↔
      ∃ id name, IsPlace graph catalog settings id name ∧
        entry = (key id name, Identifier.uniform id name) := by
  rw [List.mem_flatMap]
  constructor
  · rintro ⟨node, hnode, hentry⟩
    unfold entriesOf at hentry
    split at hentry
    · cases hentry
    · next type htype =>
      split at hentry
      · next names hnames =>
        obtain ⟨name, hname, rfl⟩ := List.mem_map.mp hentry
        exact ⟨node.id, name, ⟨node, hnode, rfl, type, htype, names, hnames, hname⟩, rfl⟩
      · cases hentry
  · rintro ⟨id, name, ⟨node, hnode, rfl, type, htype, names, hnames, hname⟩, rfl⟩
    refine ⟨node, hnode, ?_⟩
    unfold entriesOf
    rw [htype]
    dsimp only
    rw [hnames]
    exact List.mem_map.mpr ⟨name, hname, rfl⟩

/-- The table holds the uniforms of all places under their keys, and nothing else. -/
theorem find?_allocate_iff (hdots : catalog.DotFree)
    (h : allocate graph catalog settings = .ok table) {k u : String} :
    table.find? k = some u ↔ ∃ id name, IsPlace graph catalog settings id name ∧
      k = key id name ∧ u = Identifier.uniform id name := by
  rw [eq_insertAll_of_allocate h]
  by_cases hentry : ∃ entry ∈ graph.nodes.flatMap (entriesOf graph catalog settings), entry.1 = k
  · obtain ⟨entry, hentry, rfl⟩ := hentry
    rw [Table.find?_insertAll_of_mem ⟨entry, hentry, rfl⟩
      fun other hother hkey => entriesOf_unique hdots hother hentry hkey]
    obtain ⟨id, name, hplace, rfl⟩ := mem_entriesOf_iff.mp hentry
    constructor
    · intro hu
      cases hu
      exact ⟨id, name, hplace, rfl, rfl⟩
    · rintro ⟨id', name', hplace', hkey, rfl⟩
      obtain ⟨rfl, rfl⟩ := key_injective (dot_not_mem_of_isPlace hdots hplace)
        (dot_not_mem_of_isPlace hdots hplace') hkey
      rfl
  · rw [Table.find?_insertAll_of_not_mem fun entry hmem heq => hentry ⟨entry, hmem, heq⟩]
    constructor
    · intro hu
      cases hu
    · rintro ⟨id, name, hplace, rfl, rfl⟩
      exact absurd ⟨_, mem_entriesOf_iff.mpr ⟨id, name, hplace, rfl⟩, rfl⟩ hentry

/-! ### Records and declarations -/

/-- A name counts when it is there and not empty. -/
lemma nonempty?_eq_some_iff {name : Option String} {found : String} :
    nonempty? name = some found ↔ name = some found ∧ found ≠ "" := by
  unfold nonempty?
  split
  · simp
  · constructor
    · intro h
      cases h
    · rintro ⟨h, hne⟩
      cases h
      exact absurd rfl hne
  · next other hne =>
    constructor
    · intro h
      cases h
      exact ⟨rfl, fun heq => hne (by rw [heq])⟩
    · rintro ⟨h, -⟩
      exact h

/-- What is recorded about the parameters of a node. -/
lemma mem_parameterRecords_iff {keep : String → Bool} {node : Node} {type : NodeType}
    {record : Record} : record ∈ parameterRecords table keep node type ↔
      ∃ name parameter u, (name, parameter) ∈ type.parameters.entries ∧
        table.find? (key node.id name) = some u ∧ u ≠ "" ∧ parameter.type ≠ .array ∧
        keep u = true ∧ record = ⟨u, node.id, name, parameter.type.uniformKeyword,
          initial node name parameter, false⟩ := by
  unfold parameterRecords
  rw [List.mem_filterMap]
  constructor
  · rintro ⟨⟨name, parameter⟩, hentry, h⟩
    dsimp only at h
    split at h
    · cases h
    · next u hu =>
      obtain ⟨hfind, hne⟩ := nonempty?_eq_some_iff.mp hu
      split at h
      · cases h
      · next hkept =>
        cases h
        rw [Bool.or_eq_true, not_or, beq_iff_eq, Bool.not_eq_true', Bool.not_eq_false] at hkept
        exact ⟨name, parameter, u, hentry, hfind, hne, hkept.1, hkept.2, rfl⟩
  · rintro ⟨name, parameter, u, hentry, hfind, hne, harray, hkeep, rfl⟩
    refine ⟨(name, parameter), hentry, ?_⟩
    dsimp only
    rw [nonempty?_eq_some_iff.mpr ⟨hfind, hne⟩]
    dsimp only
    rw [if_neg]
    rw [Bool.or_eq_true, not_or, beq_iff_eq, Bool.not_eq_true', Bool.not_eq_false]
    exact ⟨harray, hkeep⟩

/-- A record is about an audio output of a node, or about a parameter whose uniform is used. -/
lemma cases_of_mem_records {used : Option (List String)} {found : List Record}
    (h : records graph catalog table used settings = .ok found) {record : Record}
    (hrecord : record ∈ found) :
    ∃ node ∈ graph.nodes, ∃ type, catalog.find? node.type = some type ∧
      ((∃ outputs port u, audioOutputs node type settings = .ok outputs ∧ port ∈ outputs ∧
          table.find? (key node.id port) = some u ∧
          record = ⟨u, node.id, port, "float", .number Double.zero, true⟩) ∨
        ∃ name parameter u, (name, parameter) ∈ type.parameters.entries ∧
          table.find? (key node.id name) = some u ∧ parameter.type ≠ .array ∧
          (∀ names, used = some names → u ∈ names) ∧
          record = ⟨u, node.id, name, parameter.type.uniformKeyword,
            initial node name parameter, false⟩) := by
  obtain ⟨node, hnode, own, hown, hrecord⟩ := (mem_records_iff h).mp hrecord
  unfold recordsOf at hown
  split at hown
  · cases hown
    cases hrecord
  next type htype =>
  obtain ⟨outputs, houtputs, hown⟩ := bind_eq_ok_iff.mp hown
  cases hown
  refine ⟨node, hnode, type, htype, ?_⟩
  rcases List.mem_append.mp hrecord with hrecord | hrecord
  · obtain ⟨port, hport, hrecord⟩ := List.mem_filterMap.mp hrecord
    obtain ⟨u, hu, rfl⟩ := Option.map_eq_some_iff.mp hrecord
    exact Or.inl ⟨outputs, port, u, houtputs, hport, (nonempty?_eq_some_iff.mp hu).1, rfl⟩
  · obtain ⟨name, parameter, u, hentry, hfind, -, harray, hkeep, rfl⟩ :=
      mem_parameterRecords_iff.mp hrecord
    refine Or.inr ⟨name, parameter, u, hentry, hfind, harray, ?_, rfl⟩
    rintro names rfl
    exact List.contains_iff_mem.mp hkeep

/-- Every record is about a place, and has a type that the name of the place tells. -/
lemma exists_place_of_mem_records (hdots : catalog.DotFree)
    (h : allocate graph catalog settings = .ok table) {used : Option (List String)}
    {found : List Record} (hfound : records graph catalog table used settings = .ok found)
    {record : Record} (hrecord : record ∈ found) :
    ∃ id name, IsPlace graph catalog settings id name ∧
      record.name = Identifier.uniform id name ∧ catalog.HasType settings name record.type := by
  have hplace : ∀ {id name u}, '.' ∉ name.toList → table.find? (key id name) = some u →
      IsPlace graph catalog settings id name ∧ u = Identifier.uniform id name := by
    intro id name u hname hfind
    obtain ⟨id', name', hplace, hkey, rfl⟩ := (find?_allocate_iff hdots h).mp hfind
    obtain ⟨rfl, rfl⟩ := key_injective hname (dot_not_mem_of_isPlace hdots hplace) hkey
    exact ⟨hplace, rfl⟩
  obtain ⟨node, -, type, htype, ⟨outputs, port, u, houtputs, hport, hfind, rfl⟩ |
    ⟨name, parameter, u, hentry, hfind, harray, -, rfl⟩⟩ := cases_of_mem_records hfound hrecord
  · have hnames : namesOf graph settings node type = .ok (outputs ++
        (type.parameters.entries.filter fun entry =>
          hasUniform graph settings node type entry.1 entry.2).map Prod.fst) := by
      unfold namesOf
      rw [houtputs]
      rfl
    have hdot := dot_not_mem_of_mem_namesOf hdots htype hnames (List.mem_append_left _ hport)
    obtain ⟨his, rfl⟩ := hplace hdot hfind
    exact ⟨node.id, port, his, rfl,
      (isSlot_of_mem_audioOutputs (Catalog.mem_values_of_find? htype) houtputs hport).2⟩
  · have hdot := (hdots node.type type htype).2 name (List.mem_map_of_mem hentry)
    obtain ⟨his, rfl⟩ := hplace hdot hfind
    exact ⟨node.id, name, his, rfl,
      hasType_of_mem_parameters (Catalog.mem_values_of_find? htype) hentry harray⟩

/-- The line that declares a uniform, given by type and name. -/
def declarationLine (uniform : String × String) : String :=
  "uniform " ++ uniform.1 ++ " " ++ uniform.2 ++ ";"

/-- The uniforms are declared once each, in sorted order. -/
lemma declarations_eq (uniforms : List (String × String)) :
    declarations uniforms = "\n".intercalate (sortedSet (uniforms.map declarationLine)) := rfl

/-- A line tells the type and the name, if types are words. -/
lemma declarationLine_injective {a b : String × String} (ha : AllWord a.1.toList)
    (hb : AllWord b.1.toList) (h : declarationLine a = declarationLine b) : a = b := by
  have hblank : ∀ name : String, NotStarting isWord (" ".toList ++ (name.toList ++ ";".toList)) :=
    fun name => notStarting_cons.mpr (by decide)
  have hchars := congrArg String.toList h
  unfold declarationLine at hchars
  simp only [String.toList_append, List.append_assoc, List.append_cancel_left_eq] at hchars
  obtain ⟨htype, hname⟩ := run_unique hchars ha (hblank a.2) hb (hblank b.2)
  have hname := List.append_cancel_right (List.append_cancel_left hname)
  exact Prod.ext (String.toList_inj.mp htype) (String.toList_inj.mp hname)

/-- The keyword of a type is made of word characters. -/
lemma allWord_of_hasType {name keyword : String} (h : catalog.HasType settings name keyword) :
    AllWord keyword.toList := by
  have hfloat : AllWord "float".toList := by
    have hall : "float".toList.all isWord = true := by decide
    exact fun c hc => List.all_eq_true.mp hall c hc
  have hparameter : ∀ type : ParameterType, AllWord type.uniformKeyword.toList := by
    intro type
    have hall : type.uniformKeyword.toList.all isWord = true := by cases type <;> decide
    exact fun c hc => List.all_eq_true.mp hall c hc
  rcases h with h | ⟨rfl, -⟩
  · obtain ⟨type, -, h⟩ := List.mem_flatMap.mp (List.mem_eraseDups.mp h)
    rcases List.mem_append.mp h with h | h
    · split at h
      · obtain ⟨port, -, hpair⟩ := List.mem_map.mp h
        cases hpair
        exact hfloat
      · cases h
    · obtain ⟨entry, -, hpair⟩ := List.mem_map.mp h
      cases hpair
      exact hparameter entry.2.type
  · exact hfloat

/-- The uniforms that are declared can be listed as their lines stand. -/
lemma exists_declared {uniforms : List (String × String)}
    (hwords : ∀ uniform ∈ uniforms, AllWord uniform.1.toList) :
    ∃ declared : List (String × String),
      declared.map declarationLine = sortedSet (uniforms.map declarationLine) ∧
      ∀ uniform, uniform ∈ declared ↔ uniform ∈ uniforms := by
  have hlines : ∀ {line}, line ∈ sortedSet (uniforms.map declarationLine) →
      ∃ uniform ∈ uniforms, declarationLine uniform = line :=
    fun hline => List.mem_map.mp (mem_sortedSet.mp hline)
  have hlist : ∀ lines : List String,
      (∀ line ∈ lines, ∃ uniform ∈ uniforms, declarationLine uniform = line) →
      ∃ declared : List (String × String), declared.map declarationLine = lines ∧
        ∀ uniform ∈ declared, uniform ∈ uniforms := by
    intro lines
    induction lines with
    | nil => exact fun _ => ⟨[], rfl, fun _ h => absurd h List.not_mem_nil⟩
    | cons line lines ih =>
      intro hlines
      obtain ⟨uniform, huniform, hline⟩ := hlines line List.mem_cons_self
      obtain ⟨declared, hmap, hdeclared⟩ :=
        ih fun other hother => hlines other (List.mem_cons_of_mem line hother)
      refine ⟨uniform :: declared, by rw [List.map_cons, hline, hmap], fun other hother => ?_⟩
      rcases List.mem_cons.mp hother with rfl | hother
      · exact huniform
      · exact hdeclared other hother
  obtain ⟨declared, hmap, hdeclared⟩ := hlist _ fun _ => hlines
  refine ⟨declared, hmap, fun uniform => ⟨hdeclared uniform, fun huniform => ?_⟩⟩
  -- the line of the uniform is listed, and a line tells its uniform
  have hline := mem_sortedSet.mpr (List.mem_map_of_mem (f := declarationLine) huniform)
  rw [← hmap] at hline
  obtain ⟨other, hother, heq⟩ := List.mem_map.mp hline
  have hsame := declarationLine_injective (hwords other (hdeclared other hother))
    (hwords uniform huniform) heq
  rwa [hsame] at hother

/-- Uniforms of places that differ have names that differ, and none has the name of a uniform that
every shader has. -/
lemma nodup_names_of_isPlace (happart : catalog.SlotsApart settings)
    (hglobals : settings.resolutionUniform ≠ settings.timeUniform)
    {declared : List (String × String)} (hnodup : declared.Nodup)
    (hplace : ∀ uniform ∈ declared, ∃ id name, IsPlace graph catalog settings id name ∧
      uniform.2 = Identifier.uniform id name ∧ catalog.HasType settings name uniform.1) :
    (settings.resolutionUniform :: settings.timeUniform :: declared.map Prod.snd).Nodup := by
  -- a name tells the slot, and the slot tells the type
  have hname : ∀ a ∈ declared, ∀ b ∈ declared, a.2 = b.2 → a = b := by
    intro a ha b hb heq
    obtain ⟨id, name, his, huniform, htype⟩ := hplace a ha
    obtain ⟨id', name', his', huniform', htype'⟩ := hplace b hb
    have heq' := heq
    rw [huniform, huniform'] at heq'
    obtain ⟨rfl, -⟩ :=
      (happart.uniform_eq_iff (isSlot_of_isPlace his) (isSlot_of_isPlace his')).mp heq'
    exact Prod.ext (happart.type_unique htype htype') heq
  have hreserved : ∀ global ∈ [settings.resolutionUniform, settings.timeUniform],
      global ∉ declared.map Prod.snd := by
    intro global hglobal hdeclared
    obtain ⟨uniform, huniform, heq⟩ := List.mem_map.mp hdeclared
    obtain ⟨id, name, his, hname, -⟩ := hplace uniform huniform
    exact happart.uniform_ne (isSlot_of_isPlace his) id hglobal (hname.symm.trans heq)
  rw [List.nodup_cons, List.nodup_cons, List.mem_cons, not_or]
  exact ⟨⟨hglobals, hreserved _ (by simp)⟩, hreserved _ (by simp), hnodup.map_on hname⟩

end Uniform

/-- The shader declares the uniforms that its host is told about, each once, beside those that
every shader has. -/
def Compiled.DeclaresOnce (settings : Settings) (compiled : Compiled) : Prop :=
  ∃ (declared : List (String × String)) (program : Program) (color : String),
    compiled.shader = shaderText settings
      ("\n".intercalate (declared.map Uniform.declarationLine)) program color ∧
    (∀ uniform, uniform ∈ declared ↔
      ∃ record ∈ compiled.uniforms, uniform = (record.type, record.name)) ∧
    (settings.resolutionUniform :: settings.timeUniform :: declared.map Prod.snd).Nodup

/-- Uniforms that were allocated are declared once, even when several places share them. -/
theorem Request.declaresOnce_of_compile (request : Request) {compiled : Compiled}
    (hdots : request.catalog.DotFree) (happart : request.catalog.SlotsApart request.settings)
    (hglobals : request.settings.resolutionUniform ≠ request.settings.timeUniform)
    (huniforms : request.uniforms = none) (h : (compile request).outcome = .ok compiled) :
    compiled.DeclaresOnce request.settings := by
  obtain ⟨generation, color, hshader, -, -, hrecords⟩ := exists_products_of_compile h
  have hallocated : Uniform.allocate request.graph request.catalog request.settings =
      .ok generation.scene.uniforms := by
    rcases (isScene_of_scene generation.scene_eq).uniforms with hnamed | ⟨-, hallocated⟩
    · rw [huniforms] at hnamed
      cases hnamed
    · exact hallocated
  have hplace : ∀ uniform ∈ generation.records.map fun record => (record.type, record.name),
      ∃ id name, Uniform.IsPlace request.graph request.catalog request.settings id name ∧
        uniform.2 = Identifier.uniform id name ∧
        request.catalog.HasType request.settings name uniform.1 := by
    intro uniform huniform
    obtain ⟨record, hrecord, rfl⟩ := List.mem_map.mp huniform
    exact Uniform.exists_place_of_mem_records hdots hallocated generation.records_eq hrecord
  have hwords : ∀ uniform ∈ generation.records.map fun record => (record.type, record.name),
      AllWord uniform.1.toList := by
    intro uniform huniform
    obtain ⟨_, _, _, _, htype⟩ := hplace uniform huniform
    exact Uniform.allWord_of_hasType htype
  obtain ⟨declared, hlines, hmem⟩ := Uniform.exists_declared hwords
  have hnodup : (declared.map Uniform.declarationLine).Nodup := by
    rw [hlines]
    exact nodup_sortedSet _
  refine ⟨declared, generation.program, color, ?_, fun uniform => ?_, ?_⟩
  · rw [hshader, hlines]
    rfl
  · rw [hmem, hrecords, List.mem_map]
    exact exists_congr fun record => and_congr_right fun _ => eq_comm
  · exact Uniform.nodup_names_of_isPlace happart hglobals hnodup.of_map fun uniform huniform =>
      hplace uniform ((hmem uniform).mp huniform)

/-! ### The standard catalog -/

/-- The standard types have no dots in their names. -/
lemma Catalog.dotFree_standard : Catalog.standard.DotFree := by
  have hall : Catalog.standard.types.entries.all (fun entry =>
      entry.2.outputs.all (fun port => !port.name.toList.contains '.') &&
        entry.2.parameters.keys.all fun name => !name.toList.contains '.') = true := by
    decide +kernel
  intro id type htype
  have hentry := List.all_eq_true.mp hall (id, type) (Table.mem_entries_of_find? htype)
  simpa using hentry

namespace Uniform

/-- What an allocated table of uniforms keeps apart. -/
structure Separate (graph : Graph) (catalog : Catalog) (settings : Settings)
    (table : Table String) : Prop where
  keys : table.keys.Nodup
  /-- Every place has its uniform under its key, and there is nothing else. -/
  places : ∀ k u, table.find? k = some u ↔ ∃ id name, IsPlace graph catalog settings id name ∧
    k = key id name ∧ u = Identifier.uniform id name
  /-- Uniforms are shared by places with the same name at nodes whose ids have the same stem. -/
  shared : ∀ id name id' name', IsPlace graph catalog settings id name →
    IsPlace graph catalog settings id' name' →
      (Identifier.uniform id name = Identifier.uniform id' name' ↔
        name = name' ∧ Identifier.stem id = Identifier.stem id')
  /-- Where stems differ, no uniform is shared. -/
  distinct : (graph.nodes.map fun node => Identifier.stem node.id).Nodup → table.values.Nodup

/-- The uniforms that are allocated for a graph are separate. -/
lemma separate_of_allocate {graph : Graph} {catalog : Catalog} {settings : Settings}
    {table : Table String} (hdots : catalog.DotFree) (happart : catalog.SlotsApart settings)
    (h : allocate graph catalog settings = .ok table) :
    Separate graph catalog settings table := by
  have hkeys := nodup_keys_allocate h
  have hshared : ∀ id name id' name', IsPlace graph catalog settings id name →
      IsPlace graph catalog settings id' name' →
        (Identifier.uniform id name = Identifier.uniform id' name' ↔
          name = name' ∧ Identifier.stem id = Identifier.stem id') :=
    fun id name id' name' hplace hplace' =>
      happart.uniform_eq_iff (isSlot_of_isPlace hplace) (isSlot_of_isPlace hplace')
  refine ⟨hkeys, fun k u => find?_allocate_iff hdots h, hshared, fun hstems => ?_⟩
  refine hkeys.of_map.map_on fun entry hentry other hother heq => ?_
  obtain ⟨id, name, hplace, hkey, hu⟩ :=
    (find?_allocate_iff hdots h).mp ((Table.mem_entries_iff hkeys).mp hentry)
  obtain ⟨id', name', hplace', hkey', hu'⟩ :=
    (find?_allocate_iff hdots h).mp ((Table.mem_entries_iff hkeys).mp hother)
  rw [hu, hu'] at heq
  obtain ⟨rfl, hstem⟩ := (hshared id name id' name' hplace hplace').mp heq
  obtain ⟨node, hnode, rfl, -⟩ := hplace
  obtain ⟨node', hnode', rfl, -⟩ := hplace'
  have hnodes := List.inj_on_of_nodup_map hstems hnode hnode' hstem
  subst hnodes
  exact Prod.ext (hkey.trans hkey'.symm) (hu.trans hu'.symm)

/-- Two constants whose ids differ in a character that names leave out. -/
def twinConstants : Graph where
  nodes :=
    [⟨"a-b", "constant-float", Table.empty, Table.empty⟩,
      ⟨"a_b", "constant-float", Table.empty, Table.empty⟩]
  wires := []

/-- The two constants are driven by one uniform. -/
theorem twinConstants_share_uniform :
    (twinConstants.nodes.map Node.id).Nodup ∧ ∃ table,
      allocate twinConstants Catalog.standard {} = .ok table ∧
        "a-b.value" ≠ "a_b.value" ∧ table.find? "a-b.value" = some "ua_bValue" ∧
        table.find? "a_b.value" = some "ua_bValue" := by
  have hfound : ((allocate twinConstants Catalog.standard {}).toOption.map fun table =>
      (table.find? "a-b.value", table.find? "a_b.value")) =
        some (some "ua_bValue", some "ua_bValue") := by decide +kernel
  cases htable : allocate twinConstants Catalog.standard {} with
  | error fault =>
    rw [htable] at hfound
    cases hfound
  | ok table =>
    rw [htable] at hfound
    have hpair := Option.some.inj hfound
    exact ⟨by decide, table, rfl, by decide, congrArg Prod.fst hpair, congrArg Prod.snd hpair⟩

/-- In graphs over the standard catalog, uniforms are shared only between places with the same name
at nodes whose ids have the same stem, and whatever is shared, no uniform is declared twice. -/
theorem standard_uniforms_separate (graph : Graph) (depth : Nat) :
    (∀ table, allocate graph Catalog.standard (.standard depth) = .ok table →
      Separate graph Catalog.standard (.standard depth) table) ∧
    ∀ order compiled, (compile (.standard graph order none depth)).outcome = .ok compiled →
      compiled.DeclaresOnce (.standard depth) := by
  constructor
  · intro table h
    exact separate_of_allocate Catalog.dotFree_standard (Catalog.slotsApart_standard depth) h
  · intro order compiled h
    have hglobals : ({} : Settings).resolutionUniform ≠ ({} : Settings).timeUniform := by decide
    exact (Request.standard graph order none depth).declaresOnce_of_compile
      Catalog.dotFree_standard (Catalog.slotsApart_standard depth) hglobals rfl h

/-- The uniform of the two constants is recorded for both of them and declared once. -/
theorem standard_uniforms_separate_twinConstants :
    (∃ table, allocate twinConstants Catalog.standard {} = .ok table ∧
      Separate twinConstants Catalog.standard {} table) ∧
    ∃ compiled,
      (compile (.standard twinConstants ["a-b", "a_b"] none 1000)).outcome = .ok compiled ∧
      compiled.uniforms.map Record.name = ["ua_bValue", "ua_bValue"] ∧
      compiled.DeclaresOnce {} := by
  constructor
  · have htable := eq_ok_of_isSome_toOption Table.empty (by decide +kernel :
      (allocate twinConstants Catalog.standard {}).toOption.isSome = true)
    exact ⟨_, htable, (standard_uniforms_separate twinConstants 1000).1 _ htable⟩
  · have hnames : ((compile (.standard twinConstants ["a-b", "a_b"] none 1000)).outcome.toOption.map
        fun compiled => compiled.uniforms.map Record.name) =
          some ["ua_bValue", "ua_bValue"] := by decide +kernel
    cases hcompiled : (compile (.standard twinConstants ["a-b", "a_b"] none 1000)).outcome with
    | error fault =>
      rw [hcompiled] at hnames
      cases hnames
    | ok compiled =>
      rw [hcompiled] at hnames
      exact ⟨compiled, rfl, Option.some.inj hnames,
        (standard_uniforms_separate twinConstants 1000).2 _ _ hcompiled⟩

end Uniform

end ShaderLoom
