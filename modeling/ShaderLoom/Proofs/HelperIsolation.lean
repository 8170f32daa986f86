import ShaderLoom.Program
import ShaderLoom.Proofs.EmissionAgreement
import ShaderLoom.Proofs.HelperPlan
import ShaderLoom.Proofs.RenamedHelpers

/-!
# Isolation of specialized helpers

When the helpers of a node are specialized, every call in its code reaches the helper that was made
for it.  What could go wrong is that two helpers end up with one name or with one signature, so
that only the first of them is kept.  That does not happen as long as the names in the templates
do not look like specialized names themselves: no name is another name with an underscore behind
it.  Then a new name tells the old name and the node it was made for, and a signature tells the
name.
-/

namespace ShaderLoom

open Text

/-! ### Names and signatures -/

namespace Helper

/-- `name` is `base`, an underscore and perhaps more. -/
def Extends (name base : String) : Prop := base.toList ++ ['_'] <+: name.toList

instance (name base : String) : Decidable (Extends name base) :=
  inferInstanceAs (Decidable (_ <+: _))

/-- A text that is empty or begins with an underscore. -/
abbrev Separated (text : List Char) : Prop := NotStarting (fun c => c != '_') text

/-- The names in front of two separated texts can be told apart. -/
lemma eq_of_append_separated {a b : String} {after after' : List Char} (hab : ¬Extends a b)
    (hba : ¬Extends b a) (hafter : Separated after) (hafter' : Separated after')
    (h : a.toList ++ after = b.toList ++ after') : a = b ∧ after = after' := by
  have hextends : ∀ {name base : String} {between rest : List Char},
      name.toList = base.toList ++ between → Separated (between ++ rest) → between ≠ [] →
      Extends name base := by
    intro name base between rest hname hseparated hne
    obtain ⟨c, between, rfl⟩ := List.exists_cons_of_ne_nil hne
    have hc : c = '_' := by simpa using hseparated
    exact ⟨between, by rw [hname, hc]; simp⟩
  rcases List.append_eq_append_iff.mp h with ⟨between, hname, hrest⟩ | ⟨between, hname, hrest⟩
  · by_cases hne : between = []
    · subst hne
      rw [List.append_nil] at hname
      exact ⟨String.toList_inj.mp hname.symm, hrest⟩
    · rw [hrest] at hafter
      exact absurd (hextends hname hafter hne) hba
  · by_cases hne : between = []
    · subst hne
      rw [List.append_nil] at hname
      exact ⟨String.toList_inj.mp hname, hrest.symm⟩
    · rw [hrest] at hafter'
      exact absurd (hextends hname hafter' hne) hab

/-- What stands behind the name in a signature. -/
def parameterTail (helper : Helper) : List Char :=
  helper.parameterTypes.flatMap fun type => '_' :: type.toList

/-- Texts that are joined by underscores have one before each text but the first. -/
lemma toList_intercalate_cons (first : String) (rest : List String) :
    ("_".intercalate (first :: rest)).toList =
      first.toList ++ rest.flatMap fun text => '_' :: text.toList := by
  rw [String.toList_intercalate]
  induction rest generalizing first with
  | nil => simp
  | cons second rest ih =>
    have hrest := ih second
    simp_all [List.intercalate]

/-- A signature is the return type, the name and the types of the parameters. -/
lemma toList_signature (helper : Helper) :
    helper.signature.toList =
      helper.returnType.toList ++ '_' :: (helper.name.toList ++ helper.parameterTail) := by
  unfold signature parameterTail
  rw [toList_intercalate_cons, List.flatMap_cons]
  rfl

/-- What stands behind the name in a signature is set off by an underscore. -/
lemma separated_parameterTail (helper : Helper) : Separated helper.parameterTail := by
  unfold parameterTail
  cases helper.parameterTypes with
  | nil => exact notStarting_nil
  | cons type types => simp [Separated]

lemma separated_append {text rest : List Char} (h : Separated text) (hrest : Separated rest) :
    Separated (text ++ rest) := by
  cases text with
  | nil => exact hrest
  | cons c text =>
    rw [Separated, notStarting_cons] at h
    exact notStarting_cons.mpr h

/-- Helpers with equal signatures return the same type, and agree on what follows. -/
lemma eq_of_signature_eq {a b : Helper} (ha : a.returnType ∈ returnTypes)
    (hb : b.returnType ∈ returnTypes) (h : a.signature = b.signature) :
    a.returnType = b.returnType ∧
      a.name.toList ++ a.parameterTail = b.name.toList ++ b.parameterTail := by
  have hplain : ∀ type ∈ returnTypes, ∀ c ∈ type.toList, (c != '_') = true := by
    have hall : returnTypes.all (fun type => type.toList.all fun c => c != '_') = true := by decide
    simpa only [List.all_eq_true] using hall
  have hchars := congrArg String.toList h
  rw [toList_signature, toList_signature] at hchars
  have hseparated : ∀ rest : List Char, Separated ('_' :: rest) := by
    intro rest
    simp [Separated]
  obtain ⟨htype, hrest⟩ := run_unique hchars (hplain _ ha) (hseparated _) (hplain _ hb)
    (hseparated _)
  exact ⟨String.toList_inj.mp htype, List.cons.inj hrest |>.2⟩

/-- The return type, the name and the parameter types of a helper. -/
def shape (helper : Helper) : String × String × List String :=
  (helper.returnType, helper.name, helper.parameterTypes)

/-- No signature is kept twice. -/
lemma nodup_signatures_distinct (blocks : List (List Char)) :
    ((distinct blocks).map signature).Nodup := by
  have hkeys : (distinct blocks).map signature =
      (firstsOf signature Table.empty (blocks.flatMap extract)).keys :=
    map_values_firstsOf rfl (blocks.flatMap extract)
  rw [hkeys]
  exact nodup_keys_firstsOf Table.nodup_keys_empty (blocks.flatMap extract)

/-- All helpers are kept when equal signatures mean equal helpers. -/
lemma mem_distinct_iff {blocks : List (List Char)}
    (h : ∀ a ∈ blocks.flatMap extract, ∀ b ∈ blocks.flatMap extract,
      a.signature = b.signature → a = b) {helper : Helper} :
    helper ∈ distinct blocks ↔ helper ∈ blocks.flatMap extract := by
  have hkept : helper ∈ distinct blocks ↔ (blocks.flatMap extract).find?
      (fun other => other.signature == helper.signature) = some helper :=
    mem_values_firstsOf_iff
  rw [hkept]
  constructor
  · exact List.mem_of_find?_eq_some
  · intro hmem
    cases hfind : (blocks.flatMap extract).find?
        (fun other => other.signature == helper.signature) with
    | none =>
      have := List.find?_eq_none.mp hfind helper hmem
      simp at this
    | some other =>
      have hsignature : other.signature = helper.signature := by
        simpa using List.find?_some hfind
      rw [h other (List.mem_of_find?_eq_some hfind) helper hmem hsignature]

end Helper

/-! ### Scenes whose helpers can be told apart -/

/-- What has to hold of the nodes with helpers for specialization to keep their helpers apart. -/
structure Scene.HelpersApart (scene : Scene) : Prop where
  /-- The ids of nodes differ, also as parts of identifiers. -/
  ids : (scene.graph.nodes.map fun node => Identifier.clean node.id).Nodup
  /-- No name in a template is another one with an underscore behind it. -/
  not_extends : ∀ user ∈ scene.helperUsers, ∀ other ∈ scene.helperUsers,
    ∀ name ∈ Helper.names user.template.toList, ∀ base ∈ Helper.names other.template.toList,
      ¬Helper.Extends name base
  /-- Different types name their helpers differently. -/
  disjoint : ∀ user ∈ scene.helperUsers, ∀ other ∈ scene.helperUsers,
    user.scope.node.type ≠ other.scope.node.type →
      ∀ name ∈ Helper.names user.template.toList, name ∉ Helper.names other.template.toList
  /-- A template defines every helper once. -/
  once : ∀ user ∈ scene.helperUsers,
    ((Helper.extract user.template.toList).map Helper.name).Nodup
  /-- The helper code of a node has the helpers of the template, up to their texts. -/
  shapes : ∀ user ∈ scene.helperUsers,
    (Helper.extract user.code.toList).map Helper.shape =
      (Helper.extract user.template.toList).map Helper.shape

namespace Scene

variable {scene : Scene} {user other first leader : HelperUser}

/-! ### The names that specialization gives -/

/-- What specialization puts behind the names of a node's helpers. -/
def helperSuffix (scene : Scene) (user : HelperUser) : String :=
  match scene.helperUsers.find? user.sameType, scene.helperUsers.find?
      (fun other => user.sameType other && other.code == user.code) with
  | some first, some leader =>
    if user.code = first.code then "" else "_" ++ Identifier.clean leader.scope.node.id
  | _, _ => ""

/-- The renamings of a node's helpers. -/
def helperRenames (scene : Scene) (user : HelperUser) : List (String × String) :=
  if scene.helperSuffix user = "" then []
  else (Helper.names user.template.toList).map fun name => (name, name ++ scene.helperSuffix user)

/-- The first code of a type keeps its names, and any other gets the id of its leader. -/
lemma IsPlanned.helperSuffix_eq (h : scene.IsPlanned user first leader) :
    scene.helperSuffix user =
      if user.code = first.code then "" else "_" ++ Identifier.clean leader.scope.node.id := by
  unfold helperSuffix
  rw [h.first_eq, h.leader_eq]

/-- The leader of a node has the same type and the same code. -/
lemma IsPlanned.leader_code (h : scene.IsPlanned user first leader) :
    leader ∈ scene.helperUsers ∧ leader.scope.node.type = user.scope.node.type ∧
      leader.code = user.code := by
  have hsome := List.find?_some h.leader_eq
  rw [Bool.and_eq_true, beq_iff_eq] at hsome
  exact ⟨List.mem_of_find?_eq_some h.leader_eq, HelperUser.type_eq_of_sameType hsome.1, hsome.2⟩

lemma underscore_append_ne_empty (text : String) : "_" ++ text ≠ "" := by
  intro h
  have hchars := congrArg String.toList h
  rw [String.toList_append] at hchars
  cases hchars

/-- The renamings that the plan holds for a node. -/
lemma renamesOf_plan {plan : Table (Table String)} (hplan : scene.plan.outcome = .ok plan)
    (huser : user ∈ scene.helperUsers) :
    (scene.withRenames plan).renamesOf user.scope.node.id = scene.helperRenames user := by
  obtain ⟨first, leader, hplanned, hfind⟩ := Scene.find?_plan hplan huser
  unfold renamesOf helperRenames
  show ((plan.find? user.scope.node.id).map Table.entries).getD [] = _
  rw [hfind, hplanned.helperSuffix_eq]
  by_cases hcode : user.code = first.code
  · rw [if_pos hcode, if_pos hcode, if_pos rfl]
    rfl
  · rw [if_neg hcode, if_neg hcode, if_neg (underscore_append_ne_empty _)]
    show (suffixed _ _).entries = _
    rw [entries_suffixed]
    refine List.map_congr_left fun name _ => ?_
    rw [String.append_assoc]

/-- What specialization adds is set off by an underscore. -/
lemma separated_helperSuffix (huser : user ∈ scene.helperUsers) :
    Helper.Separated (scene.helperSuffix user).toList := by
  obtain ⟨first, leader, hplanned⟩ := Scene.exists_isPlanned huser
  rw [hplanned.helperSuffix_eq]
  split
  · exact notStarting_nil
  · rw [String.toList_append]
    exact notStarting_cons.mpr rfl

/-- Nodes of one type with equal helper code get the same names. -/
lemma helperSuffix_congr (htype : user.scope.node.type = other.scope.node.type)
    (hcode : user.code = other.code) : scene.helperSuffix user = scene.helperSuffix other := by
  unfold helperSuffix
  rw [HelperUser.sameType_congr htype, hcode]

/-- Nodes of one type with different helper code get different names. -/
lemma code_eq_of_helperSuffix_eq
    (hids : (scene.graph.nodes.map fun node => Identifier.clean node.id).Nodup)
    (huser : user ∈ scene.helperUsers) (hother : other ∈ scene.helperUsers)
    (htype : user.scope.node.type = other.scope.node.type)
    (h : scene.helperSuffix user = scene.helperSuffix other) : user.code = other.code := by
  obtain ⟨first, leader, hplanned⟩ := Scene.exists_isPlanned huser
  obtain ⟨first', leader', hplanned'⟩ := Scene.exists_isPlanned hother
  have hfirst := hplanned.first_eq
  rw [HelperUser.sameType_congr htype, hplanned'.first_eq] at hfirst
  cases hfirst
  rw [hplanned.helperSuffix_eq, hplanned'.helperSuffix_eq] at h
  by_cases hcode : user.code = first.code
  · by_cases hcode' : other.code = first.code
    · rw [hcode, hcode']
    · rw [if_pos hcode, if_neg hcode'] at h
      exact absurd h.symm (underscore_append_ne_empty _)
  · by_cases hcode' : other.code = first.code
    · rw [if_neg hcode, if_pos hcode'] at h
      exact absurd h (underscore_append_ne_empty _)
    · -- both are named after a leader, and the ids of the leaders are equal
      rw [if_neg hcode, if_neg hcode'] at h
      have hclean : Identifier.clean leader.scope.node.id =
          Identifier.clean leader'.scope.node.id := by
        have hchars := congrArg String.toList h
        rw [String.toList_append, String.toList_append, List.append_cancel_left_eq] at hchars
        exact String.toList_inj.mp hchars
      obtain ⟨hleader, -, hleaderCode⟩ := hplanned.leader_code
      obtain ⟨hleader', -, hleaderCode'⟩ := hplanned'.leader_code
      have hnode := List.inj_on_of_nodup_map hids (node_mem_of_helperUser hleader)
        (node_mem_of_helperUser hleader') hclean
      have hsame : leader = leader' :=
        Scene.helperUser_eq_of_id hleader hleader' (congrArg Node.id hnode)
      rw [← hleaderCode, ← hleaderCode', hsame]

/-! ### The helper code of a node -/

/-- What is put behind a name is made of word characters. -/
lemma allWord_helperSuffix (scene : Scene) (user : HelperUser) :
    AllWord (scene.helperSuffix user).toList := by
  unfold helperSuffix
  split
  · split
    · intro c hc
      cases hc
    · have hunderscore : ∀ c ∈ ['_'], isWord c = true := by
        intro c hc
        rw [List.mem_singleton.mp hc]
        decide
      rw [String.toList_append, allWord_append]
      exact ⟨hunderscore, Identifier.allWord_clean _⟩
  · intro c hc
    cases hc

/-- Helpers are renamed from words to words. -/
lemma isName_of_mem_helperRenames {rename : String × String}
    (h : rename ∈ scene.helperRenames user) :
    Helper.IsName rename.1 ∧ Helper.IsName rename.2 := by
  unfold helperRenames at h
  split at h
  · cases h
  · obtain ⟨name, hname, rfl⟩ := List.mem_map.mp h
    have hword := Helper.isName_of_mem_names hname
    refine ⟨hword, ?_, ?_⟩
    · rw [String.toList_append]
      exact List.append_ne_nil_of_left_ne_nil hword.1 _
    · rw [String.toList_append, allWord_append]
      exact ⟨hword.2, allWord_helperSuffix scene user⟩

/-- The helper code of a node under the names of the plan. -/
def specializedCode (scene : Scene) (user : HelperUser) : List Char :=
  Helper.renamedText (scene.helperRenames user) user.code.toList

/-- The helpers of the specialized code are the old ones under new names. -/
lemma extract_specializedCode (scene : Scene) (user : HelperUser) :
    Helper.extract (scene.specializedCode user) =
      (Helper.extract user.code.toList).map (Helper.underNames (scene.helperRenames user)) :=
  Helper.extract_renamedText (fun _ => isName_of_mem_helperRenames) _

/-- With the names of the plan, the helper code of a node can be made. -/
lemma outcome_helperCode {plan : Table (Table String)} (hplan : scene.plan.outcome = .ok plan)
    (huser : user ∈ scene.helperUsers) :
    (user.scope.inScene (scene.withRenames plan)).helperCode.outcome =
      .ok (some (scene.specializedCode user)) := by
  obtain ⟨-, hof, htemplate⟩ := Scene.mem_helperUsers_iff.mp huser
  have hrender : ((user.scope.inScene (scene.withRenames plan)).render user.template).outcome =
      .ok user.code := by
    rw [← (scene.agrees_renames plan).render_eq user.scope,
      Scope.inScene_of_of? hof]
    exact Scene.renders_of_plan hplan huser
  have htemplate' : (user.scope.inScene (scene.withRenames plan)).type.helperTemplate? =
      some user.template := htemplate
  have hrenames : (user.scope.inScene (scene.withRenames plan)).scene.renamesOf
      (user.scope.inScene (scene.withRenames plan)).node.id = scene.helperRenames user :=
    renamesOf_plan hplan huser
  unfold Scope.helperCode
  rw [htemplate']
  simp only [Traced.outcome_bind, hrender, hrenames]
  show Helper.renameAll _ user.code.toList >>= _ = _
  rw [Helper.renameAll_eq_ok fun _ => isName_of_mem_helperRenames]
  rfl

/-- The helpers of the specialized scene are the distinct ones among those of all nodes. -/
lemma outcome_helpers {plan : Table (Table String)} (hplan : scene.plan.outcome = .ok plan) :
    (scene.withRenames plan).helpers.outcome =
      .ok (Helper.distinct (scene.helperUsers.map scene.specializedCode)) := by
  have hagrees : scene.Agrees (scene.withRenames plan) := scene.agrees_renames plan
  have hblocks : ∀ scope ∈ scene.emissionOrder.filterMap (Scope.of? scene),
      (scope.inScene (scene.withRenames plan)).helperCode.outcome =
        .ok (scope.type.helperTemplate?.map fun template =>
          scene.specializedCode ⟨scope, template⟩) := by
    intro scope hscope
    obtain ⟨id, hid, hof⟩ := List.mem_filterMap.mp hscope
    have heq := Scope.id_of_of? hof
    subst heq
    cases htemplate : scope.type.helperTemplate? with
    | none =>
      have htemplate' : (scope.inScene (scene.withRenames plan)).type.helperTemplate? = none :=
        htemplate
      unfold Scope.helperCode
      rw [htemplate']
      rfl
    | some template =>
      have huser : (⟨scope, template⟩ : HelperUser) ∈ scene.helperUsers :=
        Scene.mem_helperUsers_iff.mpr ⟨hid, hof, htemplate⟩
      exact outcome_helperCode hplan huser
  unfold helpers
  rw [Traced.outcome_bind, Traced.outcome_mapM, hagrees.scopes_eq rfl, List.mapM_map]
  simp only [Function.comp_def]
  rw [mapM_eq_ok_map hblocks]
  show Except.ok (Helper.distinct (List.filterMap id _)) = _
  rw [List.filterMap_map]
  unfold helperUsers
  rw [List.map_filterMap]
  simp only [Function.comp_def, id, Option.map_map]

/-! ### Telling helpers apart -/

section Apart

variable (h : scene.HelpersApart)

include h

/-- The helpers in the code of a node are named in the template. -/
lemma HelpersApart.name_mem (huser : user ∈ scene.helperUsers) {helper : Helper}
    (hhelper : helper ∈ Helper.extract user.code.toList) :
    helper.name ∈ Helper.names user.template.toList := by
  have hshape : helper.shape ∈ (Helper.extract user.code.toList).map Helper.shape :=
    List.mem_map_of_mem hhelper
  rw [h.shapes user huser] at hshape
  obtain ⟨original, horiginal, heq⟩ := List.mem_map.mp hshape
  have hname : original.name = helper.name := congrArg (fun shape => shape.2.1) heq
  rw [← hname]
  exact List.mem_eraseDups.mpr (List.mem_map_of_mem horiginal)

/-- The code of a node defines every helper once. -/
lemma HelpersApart.nodup_names (huser : user ∈ scene.helperUsers) :
    ((Helper.extract user.code.toList).map Helper.name).Nodup := by
  have hnames : ∀ helpers : List Helper,
      helpers.map Helper.name = (helpers.map Helper.shape).map fun shape => shape.2.1 := by
    intro helpers
    rw [List.map_map]
    rfl
  rw [hnames, h.shapes user huser, ← hnames]
  exact h.once user huser

/-- Helpers of one name in the codes of two nodes of one type have the same shape. -/
lemma HelpersApart.shape_eq (huser : user ∈ scene.helperUsers) (hother : other ∈ scene.helperUsers)
    (htype : user.scope.node.type = other.scope.node.type) {a b : Helper}
    (ha : a ∈ Helper.extract user.code.toList) (hb : b ∈ Helper.extract other.code.toList)
    (hname : a.name = b.name) : a.shape = b.shape := by
  have hshape : a.shape ∈ (Helper.extract user.template.toList).map Helper.shape := by
    rw [← h.shapes user huser]
    exact List.mem_map_of_mem ha
  have hshape' : b.shape ∈ (Helper.extract user.template.toList).map Helper.shape := by
    rw [Scene.template_eq_of_type huser hother htype, ← h.shapes other hother]
    exact List.mem_map_of_mem hb
  obtain ⟨original, horiginal, heq⟩ := List.mem_map.mp hshape
  obtain ⟨original', horiginal', heq'⟩ := List.mem_map.mp hshape'
  have hsame : original.name = original'.name := by
    have hleft : original.name = a.name := congrArg (fun shape => shape.2.1) heq
    have hright : original'.name = b.name := congrArg (fun shape => shape.2.1) heq'
    rw [hleft, hright, hname]
  have hcopy := List.inj_on_of_nodup_map (h.once user huser) horiginal horiginal' hsame
  rw [← heq, ← heq', hcopy]

/-- Specialization puts the suffix of the node behind the name of a helper. -/
lemma HelpersApart.renamed_eq (huser : user ∈ scene.helperUsers) {name : String}
    (hname : name ∈ Helper.names user.template.toList) :
    Helper.renamed (scene.helperRenames user) name = name ++ scene.helperSuffix user := by
  unfold helperRenames
  by_cases hsuffix : scene.helperSuffix user = ""
  · rw [if_pos hsuffix, hsuffix, String.append_empty]
    rfl
  · rw [if_neg hsuffix]
    refine Helper.renamed_map_append hname fun base hbase heq => ?_
    -- the new name would extend the old one
    have hseparated := separated_helperSuffix huser
    have hne : (scene.helperSuffix user).toList ≠ [] := fun hnil =>
      hsuffix (String.toList_inj.mp hnil)
    obtain ⟨c, rest, hcons⟩ := List.exists_cons_of_ne_nil hne
    rw [hcons, Helper.Separated, notStarting_cons] at hseparated
    have hc : c = '_' := by simpa using hseparated
    refine h.not_extends user huser user huser base hbase name hname ⟨rest, ?_⟩
    rw [heq, String.toList_append, hcons, hc]
    simp

/-- Two specialized helpers with the same name or the same signature are one: they come from the
same helper in nodes of the same type with the same code. -/
lemma HelpersApart.eq_of_name_or_signature (huser : user ∈ scene.helperUsers)
    (hother : other ∈ scene.helperUsers) {a b : Helper}
    (ha : a ∈ Helper.extract user.code.toList) (hb : b ∈ Helper.extract other.code.toList)
    (heq : (Helper.underNames (scene.helperRenames user) a).name =
        (Helper.underNames (scene.helperRenames other) b).name ∨
      (Helper.underNames (scene.helperRenames user) a).signature =
        (Helper.underNames (scene.helperRenames other) b).signature) :
    user.scope.node.type = other.scope.node.type ∧ user.code = other.code ∧ a = b := by
  have hnameA := h.name_mem huser ha
  have hnameB := h.name_mem hother hb
  have hab := h.not_extends user huser other hother a.name hnameA b.name hnameB
  have hba := h.not_extends other hother user huser b.name hnameB a.name hnameA
  have hrenamedA : (Helper.underNames (scene.helperRenames user) a).name.toList =
      a.name.toList ++ (scene.helperSuffix user).toList := by
    rw [← String.toList_append, ← h.renamed_eq huser hnameA]
    rfl
  have hrenamedB : (Helper.underNames (scene.helperRenames other) b).name.toList =
      b.name.toList ++ (scene.helperSuffix other).toList := by
    rw [← String.toList_append, ← h.renamed_eq hother hnameB]
    rfl
  have htailA := Helper.separated_parameterTail a
  have htailB := Helper.separated_parameterTail b
  have hsepA := separated_helperSuffix huser
  have hsepB := separated_helperSuffix hother
  -- either way the old names are equal, and so are the suffixes once the types are
  have hnames : a.name = b.name ∧ (a.parameterTail = b.parameterTail →
      scene.helperSuffix user = scene.helperSuffix other) := by
    rcases heq with hname | hsignature
    · have hchars := congrArg String.toList hname
      rw [hrenamedA, hrenamedB] at hchars
      obtain ⟨hname, hsuffix⟩ := Helper.eq_of_append_separated hab hba hsepA hsepB hchars
      exact ⟨hname, fun _ => String.toList_inj.mp hsuffix⟩
    · have htypeA : (Helper.underNames (scene.helperRenames user) a).returnType ∈
          Helper.returnTypes := (Helper.returnType_mem_and_isName_of_mem_extractAfter ha).1
      have htypeB : (Helper.underNames (scene.helperRenames other) b).returnType ∈
          Helper.returnTypes := (Helper.returnType_mem_and_isName_of_mem_extractAfter hb).1
      have hchars := (Helper.eq_of_signature_eq htypeA htypeB hsignature).2
      rw [hrenamedA, hrenamedB, List.append_assoc, List.append_assoc] at hchars
      obtain ⟨hname, hrest⟩ := Helper.eq_of_append_separated hab hba
        (Helper.separated_append hsepA htailA) (Helper.separated_append hsepB htailB) hchars
      refine ⟨hname, fun htail => ?_⟩
      rw [htail] at hrest
      exact String.toList_inj.mp (List.append_cancel_right hrest)
  have htype : user.scope.node.type = other.scope.node.type := by
    by_contra hne
    exact h.disjoint user huser other hother hne a.name hnameA (hnames.1 ▸ hnameB)
  have hshape := h.shape_eq huser hother htype ha hb hnames.1
  have htail : a.parameterTail = b.parameterTail :=
    congrArg (fun shape => shape.2.2.flatMap fun type => '_' :: type.toList) hshape
  have hcode := code_eq_of_helperSuffix_eq h.ids huser hother htype (hnames.2 htail)
  rw [← hcode] at hb
  exact ⟨htype, hcode, List.inj_on_of_nodup_map (h.nodup_names huser) ha hb hnames.1⟩

/-- Two specialized helpers with the same name or the same signature are equal. -/
lemma HelpersApart.specialized_eq (huser : user ∈ scene.helperUsers)
    (hother : other ∈ scene.helperUsers) {a b : Helper}
    (ha : a ∈ Helper.extract (scene.specializedCode user))
    (hb : b ∈ Helper.extract (scene.specializedCode other))
    (heq : a.name = b.name ∨ a.signature = b.signature) : a = b ∧ user.code = other.code := by
  rw [extract_specializedCode] at ha hb
  obtain ⟨originalA, horiginalA, rfl⟩ := List.mem_map.mp ha
  obtain ⟨originalB, horiginalB, rfl⟩ := List.mem_map.mp hb
  obtain ⟨htype, hcode, rfl⟩ := h.eq_of_name_or_signature huser hother horiginalA horiginalB heq
  refine ⟨?_, hcode⟩
  have hrenames : scene.helperRenames user = scene.helperRenames other := by
    unfold helperRenames
    rw [helperSuffix_congr htype hcode, Scene.template_eq_of_type huser hother htype]
  rw [hrenames]

lemma HelpersApart.nodup_ids : (scene.graph.nodes.map Node.id).Nodup :=
  Graph.nodup_ids_of_clean h.ids

/-- All helpers of all nodes are kept. -/
lemma HelpersApart.mem_kept_iff {helper : Helper} :
    helper ∈ Helper.distinct (scene.helperUsers.map scene.specializedCode) ↔
      ∃ user ∈ scene.helperUsers, helper ∈ Helper.extract (scene.specializedCode user) := by
  have hmem : ∀ helper, helper ∈ (scene.helperUsers.map scene.specializedCode).flatMap
      Helper.extract ↔
        ∃ user ∈ scene.helperUsers, helper ∈ Helper.extract (scene.specializedCode user) := by
    intro helper
    simp [List.mem_flatMap]
  rw [Helper.mem_distinct_iff, hmem]
  intro a ha b hb hsignature
  obtain ⟨user, huser, ha⟩ := (hmem a).mp ha
  obtain ⟨other, hother, hb⟩ := (hmem b).mp hb
  exact (h.specialized_eq huser hother ha hb (Or.inr hsignature)).1

/-- Each of them is kept once, and has a name of its own. -/
lemma HelpersApart.nodup_names_kept :
    ((Helper.distinct (scene.helperUsers.map scene.specializedCode)).map Helper.name).Nodup := by
  refine List.Nodup.map_on ?_ (Helper.nodup_signatures_distinct _).of_map
  intro a ha b hb hname
  obtain ⟨user, huser, ha⟩ := h.mem_kept_iff.mp ha
  obtain ⟨other, hother, hb⟩ := h.mem_kept_iff.mp hb
  exact (h.specialized_eq huser hother ha hb (Or.inl hname)).1

end Apart

/-! ### Isolation -/

/-- The node has helpers: its template makes the text `rendered`, and `code` is that text under the
names of the scene. -/
def HelperCode (scene : Scene) (node : Node) (rendered : String) (code : List Char) : Prop :=
  ∃ type template, scene.catalog.find? node.type = some type ∧
    type.helperTemplate? = some template ∧
    (Scope.render { scene, node, type } template).outcome = .ok rendered ∧
    (Scope.helperCode { scene, node, type }).outcome = .ok (some code)

/-- The helper code of a node is the one that specialization makes. -/
lemma helperCode_iff {plan : Table (Table String)} (hplan : scene.plan.outcome = .ok plan)
    (hids : (scene.graph.nodes.map Node.id).Nodup) {node : Node}
    (hnode : node ∈ scene.graph.nodes) {rendered : String} {code : List Char} :
    (scene.withRenames plan).HelperCode node rendered code ↔
      ∃ user ∈ scene.helperUsers, user.scope.node = node ∧ rendered = user.code ∧
        code = scene.specializedCode user := by
  have hrender : ∀ node type template,
      Scope.render { scene := scene.withRenames plan, node, type } template =
        Scope.render { scene, node, type } template := fun node type template =>
    ((scene.agrees_renames plan).render_eq { scene, node, type } template).symm
  constructor
  · rintro ⟨type, template, htype, htemplate, hrendered, hcode⟩
    have huser := mem_helperUsers_of_node hids hnode htype htemplate
    have hrenders := Scene.renders_of_plan hplan huser
    unfold HelperUser.Renders at hrenders
    refine ⟨_, huser, rfl, ?_, ?_⟩
    · rw [← hrender, hrendered] at hrenders
      exact Except.ok.inj hrenders
    · have hcode' := hcode.symm.trans (outcome_helperCode hplan huser)
      exact Option.some.inj (Except.ok.inj hcode')
  · rintro ⟨user, huser, rfl, rfl, rfl⟩
    obtain ⟨-, hof, htemplate⟩ := Scene.mem_helperUsers_iff.mp huser
    obtain ⟨node, type, -, htype, hscope⟩ := Scope.of?_eq_some_iff.mp hof
    have hcode := outcome_helperCode hplan huser
    have hrendered := Scene.renders_of_plan hplan huser
    unfold HelperUser.Renders at hrendered
    rw [hscope] at htemplate hcode hrendered ⊢
    rw [← hrender] at hrendered
    exact ⟨type, user.template, htype, htemplate, hrendered, hcode⟩

/-- Among the helpers that are kept, the nodes of the scene find their own and no others. -/
structure HelpersIsolated (scene : Scene) (kept : List Helper) : Prop where
  /-- Every node whose type has helpers has helper code. -/
  made : ∀ node ∈ scene.graph.nodes, ∀ type, scene.catalog.find? node.type = some type →
    type.helperTemplate?.isSome → ∃ rendered code, scene.HelperCode node rendered code
  /-- Every helper in the code of a node is kept as it is, and is the only one with its name. -/
  own : ∀ node ∈ scene.graph.nodes, ∀ rendered code, scene.HelperCode node rendered code →
    ∀ helper ∈ Helper.extract code,
      helper ∈ kept ∧ ∀ other ∈ kept, other.name = helper.name → other = helper
  /-- No two helpers that are kept have one name. -/
  names : (kept.map Helper.name).Nodup
  /-- Nodes whose templates make different code have no helper in common. -/
  apart : ∀ node ∈ scene.graph.nodes, ∀ node' ∈ scene.graph.nodes,
    ∀ rendered code rendered' code', scene.HelperCode node rendered code →
      scene.HelperCode node' rendered' code' → rendered ≠ rendered' →
        ∀ helper ∈ Helper.extract code, ∀ helper' ∈ Helper.extract code',
          helper.name ≠ helper'.name

/-- Specialization isolates the helpers of all nodes. -/
theorem specialized_helpers_isolated {plan : Table (Table String)}
    (hplan : scene.plan.outcome = .ok plan) (h : scene.HelpersApart) :
    ∃ kept, (scene.withRenames plan).helpers.outcome = .ok kept ∧
      (scene.withRenames plan).HelpersIsolated kept := by
  have hids := h.nodup_ids
  refine ⟨_, outcome_helpers hplan, ?_, ?_, h.nodup_names_kept, ?_⟩
  · intro node hnode type htype htemplate
    obtain ⟨template, htemplate⟩ := Option.isSome_iff_exists.mp htemplate
    have huser := mem_helperUsers_of_node hids hnode htype htemplate
    exact ⟨_, _, (helperCode_iff hplan hids hnode).mpr ⟨_, huser, rfl, rfl, rfl⟩⟩
  · intro node hnode rendered code hcode helper hhelper
    obtain ⟨user, huser, -, -, rfl⟩ := (helperCode_iff hplan hids hnode).mp hcode
    refine ⟨h.mem_kept_iff.mpr ⟨user, huser, hhelper⟩, fun other hother hname => ?_⟩
    obtain ⟨user', huser', hother⟩ := h.mem_kept_iff.mp hother
    exact (h.specialized_eq huser' huser hother hhelper (Or.inl hname)).1
  · intro node hnode node' hnode' rendered code rendered' code' hcode hcode' hne helper hhelper
      helper' hhelper' hname
    obtain ⟨user, huser, -, rfl, rfl⟩ := (helperCode_iff hplan hids hnode).mp hcode
    obtain ⟨user', huser', -, rfl, rfl⟩ := (helperCode_iff hplan hids hnode').mp hcode'
    exact hne (h.specialized_eq huser huser' hhelper hhelper' (Or.inl hname)).2

/-- Two nodes of one type, whose helper holds a parameter that differs between them. -/
def twoTints : Scene where
  graph :=
    { nodes :=
        [⟨"a", "tint", Table.ofList [("strength", .int 2)], Table.empty⟩,
         ⟨"b", "tint", Table.ofList [("strength", .int 3)], Table.empty⟩]
      wires := [] }
  catalog := ⟨Table.ofList [("tint",
    { id := "tint", displayName := "Tint", category := "Color", inputs := [], outputs := []
      parameters := Table.ofList
        [("strength", ⟨.float, .int 1, .null, .null, .null, none, none⟩)]
      mainCode := "scale(1.0);"
      functions := some "float scale(float x) \x7b return x * $param.strength; \x7d"
      description := "" })]⟩
  variableNames := Table.empty
  order := ["a", "b"]
  uniforms := Table.empty
  renames := Table.empty
  settings := {}

/-- The helpers of the two tints stay apart. -/
lemma helpersApart_twoTints : twoTints.HelpersApart where
  ids := by decide +kernel
  not_extends := by decide +kernel
  disjoint := by decide +kernel
  once := by decide +kernel
  shapes := by decide +kernel

/-- The second of the two nodes gets a helper of its own. -/
theorem specialized_helpers_isolated_twoTints :
    twoTints.HelpersApart ∧ ∃ plan, twoTints.plan.outcome = .ok plan ∧
      (plan.find? "b").map Table.entries = some [("scale", "scale_b")] ∧
      ∃ kept, (twoTints.withRenames plan).helpers.outcome = .ok kept ∧
        (twoTints.withRenames plan).HelpersIsolated kept := by
  have hentry : (twoTints.plan.outcome.toOption.bind fun plan =>
      (plan.find? "b").map Table.entries) = some [("scale", "scale_b")] := by decide +kernel
  cases hplan : twoTints.plan.outcome with
  | error fault =>
    rw [hplan] at hentry
    cases hentry
  | ok plan =>
    rw [hplan] at hentry
    refine ⟨helpersApart_twoTints, plan, rfl, hentry, ?_⟩
    exact specialized_helpers_isolated hplan helpersApart_twoTints

end Scene

end ShaderLoom
