import Mathlib.Data.List.Perm.Basic
import ShaderLoom.Proofs.CharacterClasses
import ShaderLoom.Proofs.Outcomes
import ShaderLoom.Proofs.Tables
import ShaderLoom.Uniform.Record

/-!
# Uniforms whatever the order of nodes

The table of uniforms is a map from parameters and audio outputs to names, and a name is made from
the place that it stands for.  As long as a place can be told from its key, nodes can be gone
through in any order; so can they when uniforms are declared, because the declarations are sorted.
-/

namespace ShaderLoom

/-- No parameter and no output of a node type has a dot in its name. -/
def Catalog.DotFree (catalog : Catalog) : Prop :=
  ∀ id type, catalog.find? id = some type →
    (∀ port ∈ type.outputs, '.' ∉ port.name.toList) ∧
      ∀ name ∈ type.parameters.keys, '.' ∉ name.toList

/-- The outputs of an analyzer are words. -/
lemma dot_not_mem_of_mem_analyzerPorts {count : Nat} {port : String}
    (h : port ∈ analyzerPorts count) : '.' ∉ port.toList := by
  have hdigits : ∀ n : Nat, '.' ∉ (toString n).toList := by
    intro n hdot
    have hdigit : '.'.isDigit = true := by
      refine Nat.isDigit_of_mem_toDigits (b := 10) (n := n) (by decide) (by decide) ?_
      simpa using hdot
    cases hdigit
  have hword : ∀ (start : String) (n : Nat), '.' ∉ start.toList →
      '.' ∉ (start ++ toString n).toList := by
    intro start n hstart hdot
    rw [String.toList_append, List.mem_append] at hdot
    exact hdot.elim hstart (hdigits n)
  unfold analyzerPorts at h
  rcases List.mem_append.mp h with h | h
  · obtain ⟨n, -, rfl⟩ := List.mem_map.mp h
    exact hword "band" n (by decide)
  · obtain ⟨n, -, rfl⟩ := List.mem_map.mp h
    exact hword "remap" n (by decide)

namespace Uniform

variable {graph graph' : Graph} {catalog : Catalog} {settings : Settings}
  {table table' : Table String}

/-! ### Keys -/

/-- A key without a dot in its last part tells the node and the name. -/
lemma key_injective {node node' name name' : String} (hname : '.' ∉ name.toList)
    (hname' : '.' ∉ name'.toList) (h : key node name = key node' name') :
    node = node' ∧ name = name' := by
  have hrun : ∀ {name : String}, '.' ∉ name.toList →
      ∀ c ∈ name.toList.reverse, (c != '.') = true := by
    intro name hname c hc
    rw [bne_iff_ne]
    rintro rfl
    exact hname (List.mem_reverse.mp hc)
  have hdot : ∀ rest : List Char, Text.NotStarting (fun c => c != '.') ('.' :: rest) :=
    fun rest => Text.notStarting_cons.mpr rfl
  have hchars := congrArg (fun text => text.toList.reverse) h
  -- read from the end, the name is what comes before the first dot
  simp only [key, String.toList_append, List.reverse_append] at hchars
  obtain ⟨hlast, hrest⟩ := Text.run_unique hchars (hrun hname) (hdot _) (hrun hname') (hdot _)
  have hnode : node.toList.reverse = node'.toList.reverse := List.append_cancel_left hrest
  exact ⟨String.toList_inj.mp (List.reverse_injective hnode),
    String.toList_inj.mp (List.reverse_injective hlast)⟩

/-- The places that uniforms stand for have no dots in their names. -/
lemma dot_not_mem_of_mem_namesOf (hdots : catalog.DotFree) {node : Node} {type : NodeType}
    (htype : catalog.find? node.type = some type) {names : List String}
    (hnames : namesOf graph settings node type = .ok names) {name : String} (h : name ∈ names) :
    '.' ∉ name.toList := by
  obtain ⟨hports, hparameters⟩ := hdots node.type type htype
  unfold namesOf at hnames
  obtain ⟨outputs, houtputs, hnames⟩ := bind_eq_ok_iff.mp hnames
  cases hnames
  rcases List.mem_append.mp h with h | h
  · unfold audioOutputs at houtputs
    split at houtputs
    · split at houtputs
      · cases houtputs
        obtain ⟨port, hport, rfl⟩ := List.mem_map.mp h
        exact hports port hport
      · split at houtputs
        · obtain ⟨bands, -, houtputs⟩ := bind_eq_ok_iff.mp houtputs
          cases houtputs
          exact dot_not_mem_of_mem_analyzerPorts h
        · cases houtputs
          cases h
    · cases houtputs
      cases h
  · obtain ⟨entry, hentry, rfl⟩ := List.mem_map.mp h
    exact hparameters entry.1 (List.mem_map_of_mem (List.mem_filter.mp hentry).1)

/-! ### Allocation -/

/-- What a node puts into the table of uniforms. -/
def entriesOf (graph : Graph) (catalog : Catalog) (settings : Settings) (node : Node) :
    List (String × String) :=
  match catalog.find? node.type with
  | none => []
  | some type =>
    match namesOf graph settings node type with
    | .ok names => names.map fun name => (key node.id name, Identifier.uniform node.id name)
    | .error _ => []

/-- The table holds what the nodes put in, one after the other. -/
lemma eq_insertAll_of_allocate (h : allocate graph catalog settings = .ok table) :
    table = Table.insertAll Prod.fst Prod.snd Table.empty
      (graph.nodes.flatMap (entriesOf graph catalog settings)) := by
  unfold allocate at h
  generalize Table.empty = start at h ⊢
  generalize graph.nodes = nodes at h ⊢
  induction nodes generalizing start with
  | nil =>
    cases h
    rfl
  | cons node rest ih =>
    rw [List.foldlM_cons] at h
    obtain ⟨next, hnext, h⟩ := bind_eq_ok_iff.mp h
    have hstep : next = Table.insertAll Prod.fst Prod.snd start
        (entriesOf graph catalog settings node) := by
      unfold entriesOf
      cases htype : catalog.find? node.type with
      | none =>
        rw [htype] at hnext
        cases hnext
        rfl
      | some type =>
        rw [htype] at hnext
        obtain ⟨names, hnames, hnext⟩ := bind_eq_ok_iff.mp hnext
        cases hnext
        dsimp only
        rw [hnames]
        dsimp only
        unfold Table.insertAll
        rw [List.foldl_map]
    rw [ih next h, hstep, List.flatMap_cons]
    exact List.foldl_append.symm

/-- A key is put in with one name only. -/
lemma entriesOf_unique (hdots : catalog.DotFree) {nodes : List Node} {entry other : String × String}
    (hentry : entry ∈ nodes.flatMap (entriesOf graph catalog settings))
    (hother : other ∈ nodes.flatMap (entriesOf graph catalog settings))
    (hkey : entry.1 = other.1) : entry.2 = other.2 := by
  have hform : ∀ entry ∈ nodes.flatMap (entriesOf graph catalog settings), ∃ node name : String,
      '.' ∉ name.toList ∧ entry = (key node name, Identifier.uniform node name) := by
    intro entry hentry
    obtain ⟨node, -, hentry⟩ := List.mem_flatMap.mp hentry
    unfold entriesOf at hentry
    cases htype : catalog.find? node.type with
    | none =>
      rw [htype] at hentry
      cases hentry
    | some type =>
      rw [htype] at hentry
      dsimp only at hentry
      split at hentry
      · next names hnames =>
        obtain ⟨name, hname, rfl⟩ := List.mem_map.mp hentry
        exact ⟨node.id, name, dot_not_mem_of_mem_namesOf hdots htype hnames hname, rfl⟩
      · cases hentry
  obtain ⟨node, name, hname, rfl⟩ := hform entry hentry
  obtain ⟨node', name', hname', rfl⟩ := hform other hother
  obtain ⟨rfl, rfl⟩ := key_injective hname hname' hkey
  rfl

/-- No place has two uniforms. -/
lemma nodup_keys_allocate (h : allocate graph catalog settings = .ok table) :
    table.keys.Nodup := by
  rw [eq_insertAll_of_allocate h]
  exact Table.nodup_keys_insertAll Table.nodup_keys_empty _

/-- The same uniforms are allocated in whatever order the nodes come. -/
theorem find?_allocate_of_perm (hdots : catalog.DotFree) (hnodes : graph.nodes.Perm graph'.nodes)
    (hwires : graph.wires = graph'.wires) (h : allocate graph catalog settings = .ok table)
    (h' : allocate graph' catalog settings = .ok table') (key : String) :
    table.find? key = table'.find? key := by
  have hentries : entriesOf graph' catalog settings = entriesOf graph catalog settings := by
    funext node
    unfold entriesOf namesOf hasUniform isWired
    rw [hwires]
  rw [eq_insertAll_of_allocate h, eq_insertAll_of_allocate h', hentries]
  refine Table.find?_insertAll_of_perm (hnodes.flatMap_right _) ?_ Table.empty key
  intro entry hentry other hother hkey
  exact entriesOf_unique hdots hentry hother hkey

/-! ### Declarations -/

/-- Which uniforms are used depends on the table only as a map. -/
lemma used_congr (hkeys : table.keys.Nodup) (hkeys' : table'.keys.Nodup)
    (h : ∀ key, table.find? key = table'.find? key) (code : List Char) :
    used code table = used code table' := by
  refine Text.sortedSet_congr fun name => ?_
  rw [List.mem_filter, List.mem_filter, Table.mem_values_iff hkeys, Table.mem_values_iff hkeys']
  simp only [h]

/-- The records of the uniforms of one node. -/
def recordsOf (catalog : Catalog) (table : Table String) (used : Option (List String))
    (settings : Settings) (node : Node) : Except Fault (List Record) :=
  match catalog.find? node.type with
  | none => .ok []
  | some type => do
    let outputs ← audioOutputs node type settings
    return audioRecords table node outputs ++ parameterRecords table
      (fun name => match used with
        | none => true
        | some names => names.contains name) node type

/-- The records of a graph are those of its nodes. -/
lemma records_eq (graph : Graph) (catalog : Catalog) (table : Table String)
    (used : Option (List String)) (settings : Settings) :
    records graph catalog table used settings =
      graph.nodes.mapM (recordsOf catalog table used settings) >>= fun perNode =>
        .ok perNode.flatten :=
  rfl

/-- The records of a node depend on what is found in the table only. -/
lemma recordsOf_congr (h : ∀ key, table.find? key = table'.find? key)
    (used : Option (List String)) :
    recordsOf catalog table used settings = recordsOf catalog table' used settings := by
  funext node
  unfold recordsOf audioRecords parameterRecords
  simp only [h]

/-- The records are those of the nodes. -/
lemma mem_records_iff {used : Option (List String)} {found : List Record}
    (h : records graph catalog table used settings = .ok found) {record : Record} :
    record ∈ found ↔ ∃ node ∈ graph.nodes, ∃ own,
      recordsOf catalog table used settings node = .ok own ∧ record ∈ own := by
  rw [records_eq] at h
  obtain ⟨perNode, hperNode, h⟩ := bind_eq_ok_iff.mp h
  cases h
  rw [List.mem_flatten]
  constructor
  · rintro ⟨own, hown, hrecord⟩
    obtain ⟨node, hnode, hfound⟩ := (mem_iff_of_mapM_eq_ok hperNode).mp hown
    exact ⟨node, hnode, own, hfound, hrecord⟩
  · rintro ⟨node, hnode, own, hfound, hrecord⟩
    exact ⟨own, (mem_iff_of_mapM_eq_ok hperNode).mpr ⟨node, hnode, hfound⟩, hrecord⟩

/-- The same uniforms are declared in whatever order the nodes come. -/
theorem declarations_of_perm (hnodes : graph.nodes.Perm graph'.nodes)
    (hfind : ∀ key, table.find? key = table'.find? key) {used : Option (List String)}
    {found found' : List Record} (h : records graph catalog table used settings = .ok found)
    (h' : records graph' catalog table' used settings = .ok found') :
    declarations (found.map fun record => (record.type, record.name)) =
      declarations (found'.map fun record => (record.type, record.name)) := by
  have hmem : ∀ record, record ∈ found ↔ record ∈ found' := by
    intro record
    rw [mem_records_iff h, mem_records_iff h', recordsOf_congr hfind]
    simp only [hnodes.mem_iff]
  unfold declarations
  refine congrArg _ (Text.sortedSet_congr fun line => ?_)
  simp only [List.map_map, List.mem_map, hmem]

end Uniform

end ShaderLoom
