import Mathlib.Data.List.Infix
import ShaderLoom.Proofs.Registrations
import ShaderLoom.Proofs.UniformClosure

/-!
# Outputs are written before they are read

Every output has a global variable, which begins as zero.  A node that reads an output whose node
has not run yet, or runs no code, reads that zero.  When the order lists the source of every wire
before its target, each wire into a node that has a block comes from a node whose block stands
further up, and this block mentions every output that the template of its node type mentions.

The exception is the node that marks the final color.  Its type has an output, but it runs no code,
so its output is never written.
-/

namespace ShaderLoom

open Text

/-! ### Templates that mention their outputs -/

namespace Template

/-- Whether a hole may follow a segment: a word does not lead up to it. -/
def mayFollow : Option (Segment Hole) → Bool
  | none => true
  | some (.literal text) => !isWordSide text.getLast?
  | some (.hole _) => false

/-- Whether a hole may come before a segment. -/
def mayPrecede : Option (Segment Hole) → Bool
  | some (.hole _) => false
  | _ => true

/-- Whether the hole stands free among segments that follow the segment `before`. -/
def isFreeIn (hole : Hole) (before : Option (Segment Hole)) : List (Segment Hole) → Bool
  | [] => false
  | segment :: rest =>
    (segment == .hole hole && mayFollow before && mayPrecede rest.head?)
      || isFreeIn hole (some segment) rest

/-- What stands before a free hole is a text that does not end in a word. -/
lemma exists_of_mayFollow {before : Option (Segment Hole)} (h : mayFollow before = true)
    {segment : Segment Hole} (hsegment : before = some segment) :
    ∃ text, segment = .literal text ∧ isWordSide text.getLast? = false := by
  subst hsegment
  cases segment with
  | literal text => exact ⟨text, rfl, by simpa [mayFollow] using h⟩
  | hole hole => cases h

/-- What stands after a free hole is a text. -/
lemma exists_of_mayPrecede {after : Option (Segment Hole)} (h : mayPrecede after = true)
    {segment : Segment Hole} (hsegment : after = some segment) :
    ∃ text, segment = .literal text := by
  subst hsegment
  cases segment with
  | literal text => exact ⟨text, rfl⟩
  | hole hole => cases h

/-- The search finds a place where the hole stands free. -/
lemma exists_of_isFreeIn {hole : Hole} {before : Option (Segment Hole)}
    {segments : List (Segment Hole)} (h : isFreeIn hole before segments = true) :
    ∃ left right, segments = left ++ .hole hole :: right ∧
      mayFollow (left.getLast?.or before) = true ∧ mayPrecede right.head? = true := by
  induction segments generalizing before with
  | nil => cases h
  | cons segment rest ih =>
    rw [isFreeIn, Bool.or_eq_true] at h
    rcases h with h | h
    · simp only [Bool.and_eq_true, beq_iff_eq] at h
      obtain ⟨⟨rfl, hbefore⟩, hafter⟩ := h
      exact ⟨[], rest, rfl, hbefore, hafter⟩
    · obtain ⟨left, right, rfl, hbefore, hafter⟩ := ih h
      refine ⟨segment :: left, right, rfl, ?_, hafter⟩
      rw [List.getLast?_cons]
      cases hlast : left.getLast? with
      | none => rwa [hlast] at hbefore
      | some last => rwa [hlast] at hbefore

/-- The search for a free hole is right. -/
lemma standsFree_of_isFreeIn {template : String} {hole : Hole}
    (h : isFreeIn hole none (segments template) = true) : StandsFree template hole := by
  obtain ⟨left, right, hsegments, hbefore, hafter⟩ := exists_of_isFreeIn h
  rw [Option.or_none] at hbefore
  exact ⟨left, right, hsegments, fun segment => exists_of_mayFollow hbefore,
    fun segment => exists_of_mayPrecede hafter⟩

end Template

/-- Whether the code of a node mentions an output that the template of its type mentions, whose
segments are given.  A node that runs no code is left out. -/
def NodeType.writesOutput (type : NodeType) (settings : Settings)
    (segments : List (Template.Segment Template.Hole)) (port : String) : Bool :=
  match type.emitter settings with
  | .nothing => true
  | .audioFile | .audioAnalyzer => false
  | .swizzle => port == "out"
  | .template => Template.isFreeIn (.plain (.output port)) none segments

/-- Only the nodes that mark the final color run no code. -/
lemma NodeType.emitter_eq_nothing_iff {type : NodeType} {settings : Settings} :
    type.emitter settings = .nothing ↔ type.id = settings.sinkType := by
  unfold emitter
  by_cases hsink : type.id = settings.sinkType
  · rw [if_pos hsink]
    exact iff_of_true rfl hsink
  · rw [if_neg hsink]
    refine iff_of_false ?_ hsink
    split
    · exact nofun
    split
    · exact nofun
    split
    · exact nofun
    · exact nofun

/-- Nodes of the type mention in their code the outputs that its template mentions. -/
def NodeType.WritesOutputs (type : NodeType) (settings : Settings) : Prop :=
  ∀ port ∈ Template.outputs type.mainCode,
    type.writesOutput settings (Template.segments type.mainCode) port = true

/-! ### Variables -/

namespace Identifier

/-- Two cleaned names behind a word, with an underscore between them, are a word. -/
lemma allWord_pair {start : String} (hstart : AllWord start.toList) (node name : String) :
    AllWord (start ++ clean node ++ "_" ++ clean name).toList := by
  have hmiddle : "_".toList.all isWord = true := by decide
  simp only [String.toList_append, allWord_append]
  exact ⟨⟨⟨hstart, allWord_clean node⟩, List.all_eq_true.mp hmiddle⟩, allWord_clean name⟩

/-- The variable of an output is made of word characters. -/
lemma allWord_outputVariable (node port : String) :
    AllWord (outputVariable node port).toList := by
  have hstart : "node_".toList.all isWord = true := by decide
  exact allWord_pair (List.all_eq_true.mp hstart) node port

/-- Every variable begins in the same way. -/
lemma prefix_outputVariable (node port : String) :
    "node_".toList <+: (outputVariable node port).toList := by
  unfold outputVariable
  rw [String.toList_append, String.toList_append, String.toList_append, List.append_assoc,
    List.append_assoc]
  exact List.prefix_append _ _

lemma outputVariable_ne_nil (node port : String) : (outputVariable node port).toList ≠ [] := by
  intro hnil
  have hprefix := prefix_outputVariable node port
  rw [hnil, List.prefix_nil] at hprefix
  revert hprefix
  decide

end Identifier

/-! ### The code of a node -/

/-- The names of the variables are those that are generated, helpers are renamed to names and have
no name of a variable, and all node types mention in their code the outputs that they write. -/
structure Scene.Writes (scene : Scene) : Prop where
  ids : (scene.graph.nodes.map Node.id).Nodup
  named : Variables.generate scene.graph scene.catalog scene.settings = .ok scene.variableNames
  types : ∀ id type, scene.catalog.find? id = some type → type.WritesOutputs scene.settings
  renames : ∀ id, ∀ rename ∈ scene.renamesOf id, Helper.IsName rename.1 ∧ Helper.IsName rename.2
  others : ∀ id, ∀ rename ∈ scene.renamesOf id, ∀ node port,
    rename.1.toList ≠ (Identifier.outputVariable node port).toList

/-- The block belongs to the node and mentions the variable of its output. -/
def Block.Writes (block : Block) (source port : String) : Prop :=
  block.node = source ∧
    ∃ line ∈ block.code, HasWord (Identifier.outputVariable source port).toList none line

namespace Scope

variable {scene : Scene} {scope : Scope} {id port : String}

/-- The variable of an output is named after the node and the output. -/
lemma eq_of_lookup (h : scene.Writes) {name : String}
    (hlookup : scene.variableNames.lookup id port = some name) :
    name = Identifier.outputVariable id port :=
  Variables.eq_of_lookup h.named hlookup

/-- What a template assigns for an output is the variable of the output. -/
lemma writtenVariable_eq (h : scope.scene.Writes) (port : String) :
    scope.writtenVariable port = Identifier.outputVariable scope.node.id port := by
  unfold writtenVariable
  cases hlookup : scope.scene.variableNames.lookup scope.node.id port with
  | some name => exact eq_of_lookup h hlookup
  | none => rfl

/-- The assignment of a swizzle begins with the variable of its output. -/
lemma hasWord_swizzleCode (h : scope.scene.Writes) {code : String}
    (hcode : scope.swizzleCode.outcome = .ok code) :
    HasWord (Identifier.outputVariable scope.node.id "out").toList none code.toList := by
  have hassign : ∀ expr : String, HasWord (Identifier.outputVariable scope.node.id "out").toList
      none (Identifier.outputVariable scope.node.id "out" ++ " = " ++ expr ++ ";").toList := by
    intro expr
    have hequals : " = ".toList = ' ' :: "= ".toList := by decide
    simp only [String.toList_append, List.append_assoc, hequals, List.cons_append]
    refine ⟨[], _, (List.nil_append _).symm, rfl, ?_⟩
    show isWord ' ' = false
    decide
  rw [outcome_swizzleCode] at hcode
  obtain ⟨input, -, hcode⟩ := bind_eq_ok_iff.mp hcode
  obtain ⟨-, -, hcode⟩ := bind_eq_ok_iff.mp hcode
  rw [writtenVariable_eq h] at hcode
  cases hcode
  exact hassign _

/-- The code of a node mentions every output that the template of its type mentions. -/
lemma exists_code_of_body (scope : Scope) (h : scope.scene.Writes)
    (hwrites : scope.type.WritesOutputs scope.scene.settings)
    (hport : port ∈ Template.outputs scope.type.mainCode)
    (hsink : scope.type.id ≠ scope.scene.settings.sinkType) {result : Option (List Char)}
    (hbody : scope.body.outcome = .ok result) :
    ∃ code, result = some code ∧
      HasWord (Identifier.outputVariable scope.node.id port).toList none code := by
  have hne := Identifier.outputVariable_ne_nil scope.node.id port
  have hword := Identifier.allWord_outputVariable scope.node.id port
  have hnames := h.renames scope.node.id
  have hother : ∀ rename ∈ scope.scene.renamesOf scope.node.id,
      rename.1.toList ≠ (Identifier.outputVariable scope.node.id port).toList :=
    fun rename hrename => h.others scope.node.id rename hrename scope.node.id port
  have hwritten := hwrites port hport
  unfold NodeType.writesOutput at hwritten
  cases hemitter : scope.type.emitter scope.scene.settings with
  | nothing => exact absurd (NodeType.emitter_eq_nothing_iff.mp hemitter) hsink
  | audioFile =>
    rw [hemitter] at hwritten
    cases hwritten
  | audioAnalyzer =>
    rw [hemitter] at hwritten
    cases hwritten
  | swizzle =>
    rw [hemitter] at hwritten
    obtain rfl := beq_iff_eq.mp hwritten
    have hemit : scope.emit = scope.swizzleCode >>= fun code => pure (some code) := by
      unfold emit
      rw [hemitter]
    obtain ⟨code, renamed, hcode, hresult, hstays⟩ := exists_renamed_of_body hnames hemit hbody
    exact ⟨renamed, hresult, hstays _ hne hword hother (hasWord_swizzleCode h hcode)⟩
  | template =>
    rw [hemitter] at hwritten
    obtain ⟨rendered, code, hrendered, hresult, hstays⟩ :=
      exists_rendered_of_body hemitter hnames hbody
    refine ⟨code, hresult, hstays _ hne hword hother ?_⟩
    have hanswer : (scope.resolver.fillHole (.plain (.output port))).outcome =
        .ok (Identifier.outputVariable scope.node.id port) := by
      rw [← writtenVariable_eq h]
      exact scope.outcome_output port
    exact (Template.standsFree_of_isFreeIn hwritten).hasWord_concat hne hword hanswer hrendered
      (Or.inl ⟨_, rfl⟩) (hasWord_self _)

end Scope

/-! ### Blocks -/

namespace Scene

variable {scene : Scene} {source port : String}

/-- An output that its node writes: the template of the type mentions it, and nodes of the type run
code. -/
def Assigns (scene : Scene) (source port : String) : Prop :=
  ∃ type, scene.typeOf? source = some type ∧ port ∈ Template.outputs type.mainCode ∧
    type.id ≠ scene.settings.sinkType

/-- A node of known type has a scope. -/
lemma exists_of?_of_typeOf? {type : NodeType} (h : scene.typeOf? source = some type) :
    ∃ node, Scope.of? scene source = some ⟨scene, node, type⟩ ∧ node.id = source ∧
      scene.catalog.find? node.type = some type := by
  obtain ⟨node, hnode, htype⟩ := Option.bind_eq_some_iff.mp h
  exact ⟨node, Scope.of?_eq_some_iff.mpr ⟨node, type, hnode, htype, rfl⟩,
    Graph.id_of_node? hnode, htype⟩

/-- A node that writes an output has a block, which mentions the output. -/
lemma exists_block (h : scene.Writes) (hassigns : scene.Assigns source port) {result : Option Block}
    (hblock : (scene.block? source).outcome = .ok result) :
    ∃ block, result = some block ∧ block.Writes source port := by
  obtain ⟨type, htype, hport, hsink⟩ := hassigns
  obtain ⟨node, hof, rfl, hfind⟩ := exists_of?_of_typeOf? htype
  obtain ⟨body, hbody, rfl⟩ := exists_body_of_block? hof hblock
  have hne := Identifier.outputVariable_ne_nil node.id port
  have hword := Identifier.allWord_outputVariable node.id port
  obtain ⟨code, rfl, hcode⟩ := Scope.exists_code_of_body ⟨scene, node, type⟩ h
    (h.types node.type type hfind) hport hsink hbody
  obtain ⟨line, hline, hstands⟩ :=
    (hasWord_iff_exists_line hne hword).mp (hcode.trimNewlines hne hword)
  rw [Option.bind_some, hcode.not_allBlank hne hword, if_neg Bool.false_ne_true]
  exact ⟨_, rfl, rfl, line, hline, hstands⟩

/-- A block belongs to the node of the order that it is made for, and nodes of its type run
code. -/
lemma of_block? {block : Block} (h : (scene.block? source).outcome = .ok (some block)) :
    block.node = source ∧ ∃ scope, Scope.of? scene source = some scope ∧
      scope.type.id ≠ scope.scene.settings.sinkType := by
  cases hof : Scope.of? scene source with
  | none =>
    unfold block? at h
    rw [hof] at h
    dsimp only at h
    split at h
    · cases h
    · cases h
  | some scope =>
    obtain ⟨body, hbody, hblock⟩ := exists_body_of_block? hof h
    obtain ⟨code, rfl, hcode⟩ := Option.bind_eq_some_iff.mp hblock.symm
    refine ⟨?_, scope, rfl, fun hsink => ?_⟩
    · split at hcode
      · cases hcode
      · cases hcode
        rfl
    · -- nodes that mark the final color have no code at all
      unfold Scope.body Scope.emit at hbody
      rw [NodeType.emitter_eq_nothing_iff.mpr hsink] at hbody
      cases hbody

/-- The blocks above a block are those of the nodes that run before. -/
lemma exists_order_of_blocks {before after : List Block} {reading : Block}
    (h : scene.blocks.outcome = .ok (before ++ reading :: after)) :
    ∃ first rest found, scene.order = first ++ reading.node :: rest ∧
      first.mapM (fun id => (scene.block? id).outcome) = .ok found ∧
      found.filterMap id = before ∧ (scene.block? reading.node).outcome = .ok (some reading) := by
  unfold blocks at h
  rw [Traced.outcome_bind, Traced.outcome_mapM] at h
  obtain ⟨found, hfound, h⟩ := bind_eq_ok_iff.mp h
  have hblocks : found.filterMap id = before ++ reading :: after := Except.ok.inj h
  obtain ⟨left, right, rfl, hleft, hright⟩ := List.filterMap_eq_append_iff.mp hblocks
  obtain ⟨skipped, own, right, rfl, hskipped, hown, -⟩ := List.filterMap_eq_cons_iff.mp hright
  obtain rfl : own = some reading := hown
  rw [← List.append_assoc] at hfound
  obtain ⟨first, item, rest, horder, hfirst, hitem⟩ := exists_split_of_mapM_eq_ok hfound
  obtain ⟨rfl, -⟩ := of_block? hitem
  refine ⟨first, rest, left ++ skipped, horder, hfirst, ?_, hitem⟩
  rw [List.filterMap_append, hleft, List.filterMap_eq_nil_iff.mpr hskipped, List.append_nil]

end Scene

/-- The nodes of a graph have different ids, the order lists each of them once, and a wire leads
from a node to one that runs later. -/
structure Graph.RunsForward (graph : Graph) (order : List String) : Prop where
  ids : (graph.nodes.map Node.id).Nodup
  listed : ∀ node ∈ graph.nodes, order.count node.id = 1
  forward : ∀ wire ∈ graph.wires, wire.source ∈ graph.nodes.map Node.id →
    wire.node ∈ graph.nodes.map Node.id → order.idxOf wire.source < order.idxOf wire.node

/-- What comes before the only occurrence of an item stands to the left of it. -/
lemma mem_left_of_idxOf_lt {α : Type} [BEq α] [LawfulBEq α] {a b : α} {left right : List α}
    (hcount : (left ++ b :: right).count b = 1)
    (h : (left ++ b :: right).idxOf a < (left ++ b :: right).idxOf b) : a ∈ left := by
  have hb : b ∉ left := by
    rw [← List.count_eq_zero]
    rw [List.count_append, List.count_cons_self] at hcount
    omega
  by_contra ha
  rw [List.idxOf_append_of_notMem ha, List.idxOf_append_of_notMem hb, List.idxOf_cons_self] at h
  omega

namespace Scene

variable {scene : Scene}

lemma mem_ids_of_typeOf? {id : String} {type : NodeType} (h : scene.typeOf? id = some type) :
    id ∈ scene.graph.nodes.map Node.id := by
  obtain ⟨node, hnode, -⟩ := Option.bind_eq_some_iff.mp h
  rw [← Graph.id_of_node? hnode]
  exact List.mem_map_of_mem (Graph.mem_of_node? hnode)

lemma Assigns.mem_ids {source port : String} (h : scene.Assigns source port) :
    source ∈ scene.graph.nodes.map Node.id := by
  obtain ⟨type, htype, -⟩ := h
  exact mem_ids_of_typeOf? htype

/-- The source of a wire into a node that has a block has its block further up. -/
lemma exists_block_before (h : scene.Writes) (hforward : scene.graph.RunsForward scene.order)
    {before after : List Block} {reading : Block}
    (hblocks : scene.blocks.outcome = .ok (before ++ reading :: after)) {wire : Wire}
    (hwire : wire ∈ scene.graph.wires) (htarget : wire.node = reading.node)
    (hassigns : scene.Assigns wire.source wire.sourcePort) :
    ∃ block ∈ before, block.Writes wire.source wire.sourcePort := by
  obtain ⟨first, rest, found, horder, hfound, rfl, hreading⟩ := exists_order_of_blocks hblocks
  have hnode : wire.node ∈ scene.graph.nodes.map Node.id := by
    obtain ⟨-, scope, hof, -⟩ := of_block? hreading
    rw [htarget]
    exact mem_ids_of_typeOf? (typeOf?_of_of? hof)
  have hbefore := hforward.forward wire hwire hassigns.mem_ids hnode
  obtain ⟨target, hmem, hid⟩ := List.mem_map.mp hnode
  have hcount := hforward.listed target hmem
  rw [hid, htarget, horder] at hcount
  rw [htarget, horder] at hbefore
  obtain ⟨result, hresult, hblock⟩ :=
    exists_ok_of_mapM_eq_ok hfound (mem_left_of_idxOf_lt hcount hbefore)
  obtain ⟨block, rfl, hwrites⟩ := exists_block h hassigns hblock
  exact ⟨block, List.mem_filterMap.mpr ⟨_, hresult, rfl⟩, hwrites⟩

/-- Every node that writes an output has a block. -/
lemma exists_block_of_assigns (h : scene.Writes) (hforward : scene.graph.RunsForward scene.order)
    {blocks : List Block} (hblocks : scene.blocks.outcome = .ok blocks) {source port : String}
    (hassigns : scene.Assigns source port) : ∃ block ∈ blocks, block.Writes source port := by
  have hsource : source ∈ scene.order := by
    obtain ⟨node, hmem, rfl⟩ := List.mem_map.mp hassigns.mem_ids
    refine List.count_pos_iff.mp ?_
    rw [hforward.listed node hmem]
    exact Nat.one_pos
  unfold Scene.blocks at hblocks
  rw [Traced.outcome_bind, Traced.outcome_mapM] at hblocks
  obtain ⟨found, hfound, hblocks⟩ := bind_eq_ok_iff.mp hblocks
  cases hblocks
  obtain ⟨result, hresult, hblock⟩ := exists_ok_of_mapM_eq_ok hfound hsource
  obtain ⟨block, rfl, hwrites⟩ := exists_block h hassigns hblock
  exact ⟨block, List.mem_filterMap.mpr ⟨_, hresult, rfl⟩, hwrites⟩

end Scene

/-! ### What is read -/

namespace Scope

variable {scope : Scope}

/-- The expression is what a wire carries into an input: the variable of its source, converted to
the type of the input. -/
def CarriesInput (scope : Scope) (wire : Wire) (port expr : String) : Prop :=
  ∃ sourceType type input, scope.scene.typeOf? wire.source = some sourceType ∧
    sourceType? scope.scene wire.source sourceType wire.sourcePort = some type ∧
    scope.type.input? port = some input ∧
    Conversion.convert (some scope.node.id)
      (Identifier.outputVariable wire.source wire.sourcePort) type input.type = .ok expr

/-- The expression is what a wire carries into a parameter: the variable of its source, as a
float. -/
def CarriesParameter (scope : Scope) (wire : Wire) (expr : String) : Prop :=
  ∃ sourceType type, scope.scene.typeOf? wire.source = some sourceType ∧
    sourceType? scope.scene wire.source sourceType wire.sourcePort = some type ∧
    Conversion.toParameter (some scope.node.id)
      (Identifier.outputVariable wire.source wire.sourcePort) type = .ok expr

/-- What an input stands for that nothing is carried into. -/
def emptyInput (scope : Scope) (port : String) : String :=
  ((scope.type.input? port).map fun input => input.type.zeroText).getD "0.0"

/-- A wire into an input is left out, or its value is what the input stands for. -/
lemma addInput_cases (h : scope.scene.Writes) {resolved table : Table String} {wire : Wire}
    {port : String} (hadd : (scope.addInput resolved wire port).outcome = .ok table) :
    table = resolved ∨
      ∃ expr, scope.CarriesInput wire port expr ∧ table = resolved.insert port expr := by
  unfold addInput at hadd
  dsimp only at hadd
  split at hadd
  · cases hadd
    exact Or.inl rfl
  next input hinput =>
  split at hadd
  · cases hadd
    exact Or.inl rfl
  next sourceType hsource =>
  split at hadd
  · cases hadd
    exact Or.inl rfl
  next type htype =>
  split at hadd
  · cases hadd
    exact Or.inl rfl
  next name hname =>
  rw [Traced.outcome_bind, Traced.outcome_remarkIf, ok_bind, Traced.outcome_bind,
    Traced.outcome_liftM, eq_of_lookup h hname] at hadd
  obtain ⟨expr, hexpr, hadd⟩ := bind_eq_ok_iff.mp hadd
  cases hadd
  exact Or.inr ⟨expr, ⟨sourceType, type, input, hsource, htype, hinput, hexpr⟩, rfl⟩

/-- Inputs that nothing is carried into are filled up with the first port of their name. -/
lemma find?_fillUp (ports : List Port) (table : Table String) (name : String) :
    (ports.foldl (fun resolved port => resolved.insertNew port.name port.type.zeroText) table).find?
        name =
      (table.find? name).or
        ((ports.find? fun port => port.name == name).map fun port => port.type.zeroText) := by
  induction ports generalizing table with
  | nil => exact Option.or_none.symm
  | cons port ports ih =>
    rw [List.foldl_cons, ih, find?_insertNew, Option.or_assoc]
    by_cases hname : port.name = name
    · rw [List.find?_cons_of_pos (by simpa using hname), if_pos hname]
      rfl
    · rw [List.find?_cons_of_neg (by simpa using hname), if_neg hname, Option.none_or]

/-- Every entry of the inputs comes from a wire, or is zero. -/
lemma exists_wire_of_inputs (h : scope.scene.Writes) {table : Table String}
    (hinputs : scope.inputs.outcome = .ok table) {port expr : String}
    (hfind : table.find? port = some expr) :
    expr = scope.emptyInput port ∨ ∃ wire,
      (wire, port) ∈ scope.scene.graph.dataWires scope.node.id ∧
        scope.CarriesInput wire port expr := by
  unfold inputs at hinputs
  rw [Traced.outcome_bind, Traced.outcome_foldlM] at hinputs
  obtain ⟨wired, hwired, hinputs⟩ := bind_eq_ok_iff.mp hinputs
  -- the wires are taken one after the other, and each may replace one entry
  have hcarried : ∀ port expr, wired.find? port = some expr → ∃ wire,
      (wire, port) ∈ scope.scene.graph.dataWires scope.node.id ∧
        scope.CarriesInput wire port expr := by
    refine holds_of_foldlM_eq_ok (P := fun table => ∀ port expr, table.find? port = some expr →
      ∃ wire, (wire, port) ∈ scope.scene.graph.dataWires scope.node.id ∧
        scope.CarriesInput wire port expr) ?_
      (fun _ _ hnone => by cases hnone) hwired
    intro resolved next item hitem hresolved hstep port expr hfind
    rcases addInput_cases h hstep with rfl | ⟨carried, hcarries, rfl⟩
    · exact hresolved port expr hfind
    · rw [Table.find?_insert] at hfind
      split at hfind
      · next hport =>
        cases hfind
        subst hport
        exact ⟨item.1, hitem, hcarries⟩
      · exact hresolved port expr hfind
  split at hinputs
  · cases hinputs
    exact Or.inr (hcarried port expr hfind)
  · cases hinputs
    rw [find?_fillUp] at hfind
    rcases Option.or_eq_some_iff.mp hfind with hfind | ⟨-, hfind⟩
    · exact Or.inr (hcarried port expr hfind)
    · left
      unfold emptyInput
      exact (congrArg (fun found => found.getD "0.0") hfind).symm

/-- An input stands for what a wire carries into it, or for zero. -/
lemma exists_wire_of_input (h : scope.scene.Writes) {port expr : String}
    (hinput : (scope.input port).outcome = .ok expr) :
    expr = scope.emptyInput port ∨ ∃ wire,
      (wire, port) ∈ scope.scene.graph.dataWires scope.node.id ∧
        scope.CarriesInput wire port expr := by
  unfold input readInput at hinput
  rw [Traced.outcome_bind] at hinput
  obtain ⟨table, htable, hinput⟩ := bind_eq_ok_iff.mp hinput
  cases hfind : table.find? port with
  | some found =>
    rw [hfind] at hinput
    cases hinput
    exact exists_wire_of_inputs h htable hfind
  | none =>
    rw [hfind] at hinput
    cases hinput
    exact Or.inl rfl

/-- A wire reads the variable of the output that it comes from. -/
lemma variableOf_eq (h : scope.scene.Writes) (wire : Wire) :
    scope.variableOf wire = Identifier.outputVariable wire.source wire.sourcePort := by
  unfold variableOf
  cases hlookup : scope.scene.variableNames.lookup wire.source wire.sourcePort with
  | some name => exact eq_of_lookup h hlookup
  | none => rfl

/-- A wire into a parameter is left out, or its value drives the parameter. -/
lemma carries_of_addParameterWire (h : scope.scene.Writes) {chosen table : Table (Nat × String)}
    {wire : Wire} {parameter : String}
    (hadd : (scope.addParameterWire chosen wire parameter).outcome = .ok table) :
    table = chosen ∨ ∃ position expr, scope.CarriesParameter wire expr ∧
      table = chosen.insert parameter (position, expr) := by
  rcases addParameterWire_cases hadd with hsame |
    ⟨sourceType, type, source, position, expr, hsource, htype, hvariable, hexpr, htable⟩
  · exact Or.inl hsame
  · rw [outcome_sourceVariable, variableOf_eq h] at hvariable
    cases hvariable
    exact Or.inr ⟨position, expr, ⟨sourceType, type, hsource, htype, hexpr⟩, htable⟩

/-- Every entry of the parameter wires comes from a wire. -/
lemma exists_wire_of_parameterWires (h : scope.scene.Writes) {table : Table String}
    (hwires : scope.parameterWires.outcome = .ok table) {name expr : String}
    (hfind : table.find? name = some expr) :
    ∃ wire, (wire, name) ∈ scope.scene.graph.parameterWires scope.node.id ∧
      scope.CarriesParameter wire expr := by
  unfold parameterWires at hwires
  rw [Traced.outcome_bind, Traced.outcome_foldlM] at hwires
  obtain ⟨chosen, hchosen, hwires⟩ := bind_eq_ok_iff.mp hwires
  cases hwires
  rw [Table.find?_map] at hfind
  obtain ⟨entry, hentry, rfl⟩ := Option.map_eq_some_iff.mp hfind
  refine holds_of_foldlM_eq_ok (P := fun table => ∀ name entry, table.find? name = some entry →
    ∃ wire, (wire, name) ∈ scope.scene.graph.parameterWires scope.node.id ∧
      scope.CarriesParameter wire entry.2) ?_ (fun _ _ hnone => by cases hnone) hchosen name entry
      hentry
  intro chosen next item hitem hresolved hstep name entry hfind
  rcases carries_of_addParameterWire h hstep with rfl | ⟨position, carried, hcarries, rfl⟩
  · exact hresolved name entry hfind
  · rw [Table.find?_insert] at hfind
    split at hfind
    · next hname =>
      cases hfind
      subst hname
      exact ⟨item.1, hitem, hcarries⟩
    · exact hresolved name entry hfind

end Scope

/-! ### The final color -/

namespace Scene

variable {scene : Scene}

/-- The color is the variable of an output: of the source of a wire into the node that marks the
final color or, if no node does, of the node that is shown instead. -/
def Shows (scene : Scene) (color : FinalColor) (source port : String) : Prop :=
  (∃ type, Conversion.toColor (Identifier.outputVariable source port) type =
      .ok color.expression) ∧
    ((∃ wire ∈ scene.graph.wires, scene.sink? = some wire.node ∧ color.node = some wire.node ∧
      wire.source = source ∧ wire.sourcePort = port) ∨
    scene.sink? = none ∧ color.node = some source)

/-- The color of a sink is black, or what a wire into the sink carries. -/
lemma exists_wire_of_sinkColor (h : scene.Writes) {sink expr : String}
    (hcolor : (scene.sinkColor sink).outcome = .ok expr) :
    expr = black ∨ ∃ wire ∈ scene.graph.wires, wire.node = sink ∧ ∃ type,
      Conversion.toColor (Identifier.outputVariable wire.source wire.sourcePort) type =
        .ok expr := by
  unfold sinkColor at hcolor
  split at hcolor
  · cases hcolor
  dsimp only at hcolor
  split at hcolor
  · cases hcolor
    exact Or.inl rfl
  next wire port hlast =>
  split at hcolor
  · next sourceType name hsource hname =>
    have hwire := List.mem_of_mem_filter (List.mem_of_getLast? hlast)
    obtain ⟨hmem, hnode, -⟩ := Graph.mem_dataWires_iff.mp hwire
    rw [Traced.outcome_lift, Scope.eq_of_lookup h hname] at hcolor
    exact Or.inr ⟨wire, hmem, hnode, _, hcolor⟩
  · cases hcolor
    exact Or.inl rfl

/-- The outputs that can be shown have variables. -/
lemma lookup_of_mem_shownOutputs {id : String} {outputs : List (String × PortType × String)}
    (h : scene.shownOutputs id = .ok outputs) {port : String} {type : PortType} {name : String}
    (hmem : (port, type, name) ∈ outputs) : scene.variableNames.lookup id port = some name := by
  unfold shownOutputs at h
  split at h
  · obtain ⟨names, -, h⟩ := bind_eq_ok_iff.mp h
    cases h
    obtain ⟨shown, -, hshown⟩ := List.mem_filterMap.mp hmem
    obtain ⟨found, hfound, hpair⟩ := Option.map_eq_some_iff.mp hshown
    cases hpair
    exact hfound
  · cases h
    cases hmem

/-- The color of a node that is shown is the variable of one of its outputs. -/
lemma exists_output_of_colorFrom? (h : scene.Writes) {p : PortType → Bool} {ids : List String}
    {color : FinalColor} (hcolor : scene.colorFrom? p ids = .ok (some color)) :
    ∃ source port type, color.node = some source ∧
      Conversion.toColor (Identifier.outputVariable source port) type =
        .ok color.expression := by
  induction ids with
  | nil => cases hcolor
  | cons id rest ih =>
    unfold colorFrom? at hcolor
    obtain ⟨outputs, houtputs, hcolor⟩ := bind_eq_ok_iff.mp hcolor
    split at hcolor
    · next port type name hpreferred =>
      obtain ⟨expr, hexpr, hcolor⟩ := bind_eq_ok_iff.mp hcolor
      cases hcolor
      have hmem : (port, type, name) ∈ outputs :=
        (List.mem_filter.mp (mem_of_preferredOutput hpreferred)).1
      refine ⟨id, port, type, rfl, ?_⟩
      rw [← Scope.eq_of_lookup h (lookup_of_mem_shownOutputs houtputs hmem)]
      exact hexpr
    · exact ih hcolor

/-- The final color is black, or the variable of an output. -/
lemma exists_output_of_finalColor (h : scene.Writes) {color : FinalColor}
    (hcolor : scene.finalColor.outcome = .ok color) :
    color.expression = black ∨ ∃ source port, scene.Shows color source port := by
  unfold finalColor at hcolor
  cases hsink : scene.sink? with
  | some sink =>
    rw [hsink] at hcolor
    dsimp only at hcolor
    rw [Traced.outcome_bind] at hcolor
    obtain ⟨expr, hexpr, hcolor⟩ := bind_eq_ok_iff.mp hcolor
    cases hcolor
    rcases exists_wire_of_sinkColor h hexpr with hblack | ⟨wire, hmem, rfl, type, htype⟩
    · exact Or.inl hblack
    · exact Or.inr ⟨wire.source, wire.sourcePort, ⟨type, htype⟩,
        Or.inl ⟨wire, hmem, hsink, rfl, rfl, rfl⟩⟩
  | none =>
    rw [hsink] at hcolor
    dsimp only at hcolor
    unfold fallbackColor at hcolor
    have hshows : ∀ p, scene.colorFrom? p scene.order.reverse = .ok (some color) →
        ∃ source port, scene.Shows color source port := by
      intro p hfrom
      obtain ⟨source, port, type, hnode, htype⟩ := exists_output_of_colorFrom? h hfrom
      exact ⟨source, port, ⟨type, htype⟩, Or.inr ⟨hsink, hnode⟩⟩
    rw [Traced.outcome_bind, Traced.outcome_liftM] at hcolor
    obtain ⟨first, hfirst, hcolor⟩ := bind_eq_ok_iff.mp hcolor
    cases first with
    | some found =>
      cases hcolor
      exact Or.inr (hshows _ hfirst)
    | none =>
      dsimp only at hcolor
      rw [Traced.outcome_bind, Traced.outcome_liftM] at hcolor
      obtain ⟨second, hsecond, hcolor⟩ := bind_eq_ok_iff.mp hcolor
      cases second with
      | some found =>
        cases hcolor
        exact Or.inr (hshows _ hsecond)
      | none =>
        cases hcolor
        exact Or.inl rfl

/-! ### Whole scenes -/

/-- What the blocks and the color of a scene read comes from wires and outputs, and everything that
is read of a node that writes it is written. -/
structure ReadsWritten (scene : Scene) (blocks : List Block) (color : FinalColor) : Prop where
  /-- An input of a block stands for what a wire carries into it, or for zero. -/
  inputs : ∀ reading ∈ blocks, ∀ scope, Scope.of? scene reading.node = some scope →
    ∀ port expr, (scope.input port).outcome = .ok expr → expr = scope.emptyInput port ∨
      ∃ wire, (wire, port) ∈ scene.graph.dataWires reading.node ∧
        scope.CarriesInput wire port expr
  /-- What drives a parameter of a block is carried into it by a wire. -/
  parameters : ∀ reading ∈ blocks, ∀ scope, Scope.of? scene reading.node = some scope →
    ∀ table, scope.parameterWires.outcome = .ok table → ∀ name expr,
      table.find? name = some expr →
        ∃ wire, (wire, name) ∈ scene.graph.parameterWires reading.node ∧
          scope.CarriesParameter wire expr
  /-- The color is black, or the variable of an output. -/
  color : color.expression = black ∨ ∃ source port, scene.Shows color source port
  /-- Whatever a wire into the node of a block carries was written in a block further up. -/
  above : ∀ before reading after, blocks = before ++ reading :: after →
    ∀ wire ∈ scene.graph.wires, wire.node = reading.node →
      scene.Assigns wire.source wire.sourcePort →
        ∃ block ∈ before, block.Writes wire.source wire.sourcePort
  /-- Every output that its node writes is written somewhere. -/
  written : ∀ source port, scene.Assigns source port →
    ∃ block ∈ blocks, block.Writes source port
  /-- Nodes that mark the final color write nothing. -/
  silent : ∀ block ∈ blocks, ∀ type, scene.typeOf? block.node = some type →
    type.id ≠ scene.settings.sinkType

/-- What is read was written before, when the order lists the source of every wire first. -/
theorem readsWritten_of_blocks (h : scene.Writes)
    (hforward : scene.graph.RunsForward scene.order) {blocks : List Block}
    (hblocks : scene.blocks.outcome = .ok blocks) {color : FinalColor}
    (hcolor : scene.finalColor.outcome = .ok color) : scene.ReadsWritten blocks color where
  inputs := by
    intro reading _ scope hof port expr hinput
    have hid := Scope.id_of_of? hof
    obtain ⟨node, type, -, -, rfl⟩ := Scope.of?_eq_some_iff.mp hof
    rw [← hid]
    exact Scope.exists_wire_of_input h hinput
  parameters := by
    intro reading _ scope hof table htable name expr hfind
    have hid := Scope.id_of_of? hof
    obtain ⟨node, type, -, -, rfl⟩ := Scope.of?_eq_some_iff.mp hof
    rw [← hid]
    exact Scope.exists_wire_of_parameterWires h htable hfind
  color := exists_output_of_finalColor h hcolor
  above := by
    rintro before reading after rfl wire hwire htarget hassigns
    exact exists_block_before h hforward hblocks hwire htarget hassigns
  written := fun _ _ hassigns => exists_block_of_assigns h hforward hblocks hassigns
  silent := by
    intro block hblock type htype
    obtain ⟨before, after, rfl⟩ := List.append_of_mem hblock
    obtain ⟨_, _, _, -, -, -, hown⟩ := exists_order_of_blocks hblocks
    obtain ⟨-, scope, hof, hsink⟩ := of_block? hown
    have htype' := typeOf?_of_of? hof
    rw [htype] at htype'
    obtain ⟨node, type', -, -, rfl⟩ := Scope.of?_eq_some_iff.mp hof
    cases htype'
    exact hsink

end Scene

/-! ### Standard node types -/

/-- The output that a placeholder asks for. -/
def Template.Placeholder.output? : Template.Placeholder → Option String
  | .output port => some port
  | _ => none

/-- The outputs among the holes of segments. -/
def Template.outputsOf (segments : List (Template.Segment Template.Hole)) : List String :=
  ((Template.holes segments).flatMap Template.Hole.placeholders).filterMap
    Template.Placeholder.output?

/-- A node type can be checked on the characters of its template. -/
lemma NodeType.writesOutputs_of_chars {type : NodeType} {settings : Settings} {chars : List Char}
    (hchars : type.mainCode.toList = chars)
    (h : (Template.outputsOf (Template.scan Template.hole? Template.Hole.source none chars)).all
      (type.writesOutput settings (Template.scan Template.hole? Template.Hole.source none chars)) =
        true) : type.WritesOutputs settings := by
  subst hchars
  intro port hport
  refine List.all_eq_true.mp h port (List.mem_filterMap.mpr ⟨.output port, ?_, rfl⟩)
  exact Template.mem_outputs_iff.mp hport

-- The literals of the templates are unfolded to their characters, up to 469 of them.
set_option maxRecDepth 4000 in
/-- Standard node types mention in their code the outputs that they write. -/
lemma Palette.writesOutputs_all : ∀ type ∈ Palette.all, type.WritesOutputs {} := by
  have hadd : Palette.add.WritesOutputs {} :=
    NodeType.writesOutputs_of_chars rfl (by decide +kernel)
  have hmultiply : Palette.multiply.WritesOutputs {} :=
    NodeType.writesOutputs_of_chars rfl (by decide +kernel)
  simp only [Palette.all, Palette.inputs, Palette.audio, Palette.vectors, Palette.arithmetic,
    Palette.noise, List.forall_mem_append, List.forall_mem_cons, List.not_mem_nil,
    false_imp_iff, implies_true, and_true, hadd, hmultiply, true_and]
  and_intros
  all_goals exact NodeType.writesOutputs_of_chars String.toList_ofList (by decide +kernel)

/-- No word of the text begins as variables do. -/
def Identifier.lacksVariables (text : List Char) : Bool :=
  text.tails.all fun rest => !"node_".toList.isPrefixOf rest

/-- A text without the beginning of output variables holds none. -/
lemma Identifier.not_infix_of_lacksVariables {text : List Char}
    (h : lacksVariables text = true) (node port : String) :
    ¬(outputVariable node port).toList <:+: text := by
  intro hinfix
  obtain ⟨rest, hprefix, hsuffix⟩ := List.infix_iff_prefix_suffix.mp
    ((prefix_outputVariable node port).isInfix.trans hinfix)
  have hlacks := List.all_eq_true.mp h rest ((List.mem_tails rest text).mpr hsuffix)
  rw [List.isPrefixOf_iff_prefix.mpr hprefix] at hlacks
  cases hlacks

/-- A helper of the type is not called like a variable. -/
def NodeType.HelpersApart (type : NodeType) : Prop :=
  ∀ name ∈ type.helperNames, ∀ node port,
    name.toList ≠ (Identifier.outputVariable node port).toList

/-- A type without helpers mentions no output variable in them. -/
lemma NodeType.helpersApart_of_none {type : NodeType} (h : type.functions = none) :
    type.HelpersApart := by
  intro name hname
  unfold helperNames helperTemplate? at hname
  rw [h] at hname
  cases hname

/-- Helpers without the beginning of output variables mention none. -/
lemma NodeType.helpersApart_of_chars {type : NodeType} {template : String} {chars : List Char}
    (h : type.functions = some template) (hchars : template.toList = chars)
    (hlacks : Identifier.lacksVariables chars = true) : type.HelpersApart := by
  subst hchars
  intro name hname node port heq
  refine Identifier.not_infix_of_lacksVariables hlacks node port ?_
  rw [← heq]
  unfold helperNames helperTemplate? at hname
  rw [h] at hname
  split at hname
  · cases hname
  · cases hname
  · next heq =>
    cases heq
    exact Helper.name_infix_of_mem_names hname

set_option maxRecDepth 8000 in
/-- Standard helpers are not called like variables. -/
lemma Palette.helpersApart_all : ∀ type ∈ Palette.all, type.HelpersApart := by
  have hfractal : Palette.fractalNoise.HelpersApart :=
    NodeType.helpersApart_of_chars rfl
      ((String.toList_append).trans (congrArg₂ _ String.toList_ofList String.toList_ofList))
      (by decide +kernel)
  have hturbulence : Palette.turbulence.HelpersApart :=
    NodeType.helpersApart_of_chars rfl String.toList_ofList (by decide +kernel)
  simp only [Palette.all, Palette.inputs, Palette.audio, Palette.vectors, Palette.arithmetic,
    Palette.noise, List.forall_mem_append, List.forall_mem_cons, List.not_mem_nil,
    false_imp_iff, implies_true, and_true, hfractal, hturbulence]
  and_intros
  all_goals exact NodeType.helpersApart_of_none rfl

/-- The types of the standard catalog are those of the palette. -/
lemma Catalog.mem_of_find?_standard {id : String} {type : NodeType}
    (h : Catalog.standard.find? id = some type) : type ∈ Palette.all := by
  unfold Catalog.find? Catalog.standard at h
  rw [Table.ofList_eq_insertAll] at h
  rcases Table.exists_of_find?_insertAll h with ⟨entry, hentry, rfl⟩ | hnone
  · obtain ⟨type, htype, rfl⟩ := List.mem_map.mp hentry
    exact htype
  · cases hnone

/-! ### Requests -/

/-- A scene of standard node types, whose helpers keep their names or are renamed by the plan. -/
def Request.Renders (request : Request) (scene : Scene) : Prop :=
  ∃ start renames, request.scene = .ok start ∧ scene = start.withRenames renames ∧
    (renames = Table.empty ∨ start.plan.outcome = .ok renames)

/-- Scenes of standard graphs write what their types assign. -/
lemma Scene.writes_of_renders {graph : Graph} {order : List String}
    {uniforms : Option (Table String)} {depth : Nat} {scene : Scene}
    (hids : (graph.nodes.map Node.id).Nodup)
    (h : (Request.standard graph order uniforms depth).Renders scene) : scene.Writes := by
  obtain ⟨start, renames, hstart, rfl, hrenames⟩ := h
  obtain ⟨hgraph, hcatalog, -, hsettings, hnamed, -⟩ := Request.isScene_of_scene hstart
  have hrenamed : ∀ id, ∀ rename ∈ (start.withRenames renames).renamesOf id,
      start.plan.outcome = .ok renames := by
    intro id rename hrename
    rcases hrenames with rfl | hplan
    · cases hrename
    · exact hplan
  have hstandard : ∀ id type, start.catalog.find? id = some type → type ∈ Palette.all := by
    rw [hcatalog]
    exact fun id type => Catalog.mem_of_find?_standard
  refine ⟨?_, ?_, ?_, ?_, ?_⟩
  · show (start.graph.nodes.map Node.id).Nodup
    rw [hgraph]
    exact hids
  · show Variables.generate start.graph start.catalog start.settings = .ok start.variableNames
    rw [hgraph, hcatalog, hsettings]
    exact hnamed
  · show ∀ id type, start.catalog.find? id = some type → type.WritesOutputs start.settings
    rw [hsettings]
    exact fun id type htype => Palette.writesOutputs_all type (hstandard id type htype)
  · intro id rename hrename
    exact Scene.isName_of_mem_renamesOf (hrenamed id rename hrename) hrename
  · intro id rename hrename
    have hplan := hrenamed id rename hrename
    obtain ⟨user, huser, rfl, -⟩ := Scene.exists_helperUser_of_mem_renamesOf hplan hrename
    obtain ⟨-, hof, -⟩ := Scene.mem_helperUsers_iff.mp huser
    have hof' := (start.agrees_renames renames).of?_eq user.scope.node.id
    rw [hof] at hof'
    have hname := Scene.mem_helperNames_of_mem_renamesOf hplan hof' hrename
    obtain ⟨node, type, -, htype, hscope⟩ := Scope.of?_eq_some_iff.mp hof
    rw [hscope] at hname
    exact Palette.helpersApart_all type (hstandard _ _ htype) rename.1 hname

namespace Request

/-- Whatever the blocks and the final color of a graph of standard node types read was written in a
block further up, unless it comes out of a node that marks the final color: such a node has no
block.  A compiled shader is put together from such blocks and such a color. -/
theorem readsWritten_of_runsForward {graph : Graph} {order : List String}
    (uniforms : Option (Table String)) (depth : Nat) (hforward : graph.RunsForward order) :
    (∀ scene, (Request.standard graph order uniforms depth).Renders scene →
      ∀ blocks, scene.blocks.outcome = .ok blocks →
      ∀ color, scene.finalColor.outcome = .ok color → scene.ReadsWritten blocks color) ∧
    ∀ compiled, (compile (.standard graph order uniforms depth)).outcome = .ok compiled →
      ∃ scene program uniformText blocks color,
        (Request.standard graph order uniforms depth).Renders scene ∧
        compiled.shader = shaderText (.standard depth) uniformText program color.expression ∧
        program.mainCode = "\n".intercalate (blocks.flatMap Block.lines) ∧
        scene.blocks.outcome = .ok blocks ∧ scene.finalColor.outcome = .ok color ∧
        scene.ReadsWritten blocks color := by
  have hreads : ∀ scene, (Request.standard graph order uniforms depth).Renders scene →
      ∀ blocks, scene.blocks.outcome = .ok blocks →
      ∀ color, scene.finalColor.outcome = .ok color → scene.ReadsWritten blocks color := by
    intro scene hrenders blocks hblocks color hcolor
    have hwrites := Scene.writes_of_renders hforward.ids hrenders
    obtain ⟨start, renames, hstart, rfl, -⟩ := hrenders
    obtain ⟨hgraph, -, horder, -, -, -⟩ := isScene_of_scene hstart
    refine Scene.readsWritten_of_blocks hwrites ?_ hblocks hcolor
    show start.graph.RunsForward start.order
    rw [hgraph, horder]
    exact hforward
  refine ⟨hreads, fun compiled hcompiled => ?_⟩
  obtain ⟨generation, color, hshader, hcolor, -⟩ := exists_color_of_compile hcompiled
  obtain ⟨_, blocks, _, -, hblocks, -, hprogram⟩ := Scene.exists_of_program generation.program_eq
  have hrenamed : (Request.standard graph order uniforms depth).renames = none := rfl
  have hplan := generation.plan_eq
  rw [outcome_plan hrenamed] at hplan
  have hrenders : (Request.standard graph order uniforms depth).Renders
      (generation.scene.withRenames generation.plan) :=
    ⟨generation.scene, generation.plan, generation.scene_eq, rfl, Or.inr hplan⟩
  refine ⟨_, generation.program, generation.uniformText, blocks, color, hrenders, hshader, ?_,
    hblocks, hcolor, hreads _ hrenders _ hblocks _ hcolor⟩
  rw [hprogram]

/-- The scene of a request, whose helpers keep their names. -/
def plainScene (request : Request) : Scene :=
  (request.scene.toOption.getD default).withRenames Table.empty

/-- A request that has a scene renders it with helpers under their own names, among others. -/
lemma renders_plainScene (request : Request) (h : request.scene.toOption.isSome = true) :
    request.Renders request.plainScene :=
  ⟨_, Table.empty, eq_ok_of_isSome_toOption default h, rfl, Or.inl rfl⟩

/-- A constant drives the value of another one, which is inverted and shown. -/
def drivenConstant : Request :=
  .standard
    { nodes := [⟨"k", "constant-float", Table.empty, Table.empty⟩,
        ⟨"c", "constant-float", Table.empty, Table.empty⟩,
        ⟨"o", "one-minus", Table.empty, Table.empty⟩,
        ⟨"f", "final-output", Table.empty, Table.empty⟩]
      wires := [⟨"k", "out", "c", .parameter "value"⟩, ⟨"c", "out", "o", .port "in"⟩,
        ⟨"o", "out", "f", .port "in"⟩] }
    ["k", "c", "o", "f"] none 1000

/-- Each block reads what the block before it writes, and the color what the last one writes. -/
theorem readsWritten_of_runsForward_drivenConstant :
    drivenConstant.graph.RunsForward drivenConstant.order ∧
      (∃ compiled, (compile drivenConstant).outcome = .ok compiled) ∧
      ∃ scene blocks color, drivenConstant.Renders scene ∧
        scene.blocks.outcome = .ok blocks ∧ scene.finalColor.outcome = .ok color ∧
        blocks.map Block.node = ["k", "c", "o"] ∧ color.expression = "vec3(node_o_out)" ∧
        scene.ReadsWritten blocks color := by
  have hforward : drivenConstant.graph.RunsForward drivenConstant.order :=
    ⟨by decide, by decide, by decide⟩
  have hrenders := drivenConstant.renders_plainScene (by decide +kernel)
  have hblocks : drivenConstant.plainScene.blocks.outcome = .ok _ :=
    eq_ok_of_isSome_toOption default (by decide +kernel)
  have hcolor : drivenConstant.plainScene.finalColor.outcome = .ok _ :=
    eq_ok_of_isSome_toOption default (by decide +kernel)
  have hcompiled : (compile drivenConstant).outcome = .ok _ :=
    eq_ok_of_isSome_toOption default (by decide +kernel)
  refine ⟨hforward, ⟨_, hcompiled⟩, _, _, _, hrenders, hblocks, hcolor, ?_, ?_,
    (readsWritten_of_runsForward none 1000 hforward).1 _ hrenders _ hblocks _ hcolor⟩
  · decide +kernel
  · decide +kernel

/-- The color of a constant is shown, and what comes out of the node that shows it is inverted. -/
def invertedSink : Request :=
  .standard
    { nodes := [⟨"c", "constant-vec3", Table.empty, Table.empty⟩,
        ⟨"f", "final-output", Table.empty, Table.empty⟩,
        ⟨"o", "one-minus", Table.empty, Table.empty⟩]
      wires := [⟨"c", "out", "f", .port "in"⟩, ⟨"f", "out", "o", .port "in"⟩] }
    ["c", "f", "o"] none 1000

/-- The node that marks the final color has an output in its template, and the node after it reads
this output, but no block writes it. -/
theorem invertedSink_reads_unwritten :
    invertedSink.graph.RunsForward invertedSink.order ∧
      ∃ scene blocks, invertedSink.Renders scene ∧ scene.blocks.outcome = .ok blocks ∧
        (∃ type, scene.typeOf? "f" = some type ∧ "out" ∈ Template.outputs type.mainCode) ∧
        (∃ block ∈ blocks, block.node = "o" ∧
          block.code.map String.ofList = ["node_o_out = 1.0 - node_f_out.r;"]) ∧
        ∀ block ∈ blocks, block.node ≠ "f" := by
  have hforward : invertedSink.graph.RunsForward invertedSink.order :=
    ⟨by decide, by decide, by decide⟩
  have hrenders := invertedSink.renders_plainScene (by decide +kernel)
  have hblocks : invertedSink.plainScene.blocks.outcome = .ok _ :=
    eq_ok_of_isSome_toOption default (by decide +kernel)
  have htype : (invertedSink.plainScene.typeOf? "f").any
      (fun type => decide ("out" ∈ Template.outputs type.mainCode)) = true := by decide +kernel
  obtain ⟨type, hfind, hport⟩ := (Option.any_eq_true _ _).mp htype
  refine ⟨hforward, _, _, hrenders, hblocks, ⟨type, hfind, of_decide_eq_true hport⟩, ?_, ?_⟩
  · decide +kernel
  · decide +kernel

end Request

end ShaderLoom
