import Mathlib.Logic.Equiv.Basic
import ShaderLoom.Proofs.InsertionOrder
import ShaderLoom.Proofs.RelabeledRequests
import ShaderLoom.Proofs.WholeWords

/-!
# Comments of blocks

The block of a node begins with a comment that shows the title of its type and its id, as they are.
The rest of the block is the code of the node, indented and in braces.  As long as neither the
title nor the id holds a newline, the comment is one line, and nothing of them stands outside of
it: the code knows ids only by their cleaned form.  Behind a newline the title or the id goes on
outside of the comment.
-/

namespace ShaderLoom

/-! ### Lines of a text -/

/-- The lines of a string. -/
def linesOf (text : String) : List String := (Text.lines text.toList).map String.ofList

/-- A text without line breaks is one line. -/
lemma linesOf_of_unbroken {text : String} (h : '\n' ∉ text.toList) : linesOf text = [text] := by
  rw [linesOf, Text.lines_of_unbroken h, List.map_singleton, String.ofList_toList]

/-- Texts put together line by line consist of the lines of all of them. -/
lemma isLines_flatMap_linesOf (texts : List String) :
    IsLines ("\n".intercalate texts) (texts.flatMap linesOf) where
  text_eq := by
    cases texts with
    | nil => rfl
    | cons first rest =>
      rw [← String.toList_inj, Text.toList_intercalate_newline, Text.toList_intercalate_newline]
      have hlines : ((first :: rest).flatMap linesOf).map String.toList =
          Text.lines (Text.joinLines ((first :: rest).map String.toList)) := by
        rw [Text.lines_joinLines (by simp), List.map_flatMap, List.flatMap_map]
        refine List.flatMap_congr fun text _ => ?_
        simp [linesOf, Function.comp_def]
      rw [hlines, Text.joinLines_lines]
  unbroken := by
    intro line hline
    obtain ⟨text, -, hline⟩ := List.mem_flatMap.mp hline
    obtain ⟨chars, hchars, rfl⟩ := List.mem_map.mp hline
    rw [String.toList_ofList]
    exact Text.not_mem_of_mem_splitOn hchars

/-! ### One block -/

namespace Block

/-- The comment of a block. -/
def comment (block : Block) : String :=
  "  // Node: " ++ block.displayName ++ " (" ++ block.node ++ ")"

/-- The lines of a block below its comment. -/
def rest (block : Block) : List String :=
  "  \x7b" :: block.code.map (fun line =>
    if Text.allBlank line then "" else "    " ++ String.ofList line) ++ ["  \x7d", ""]

/-- A block begins with its comment. -/
lemma lines_eq (block : Block) : block.lines = block.comment :: block.rest := rfl

/-- The comment is one line exactly if the title and the id are. -/
lemma newline_not_mem_comment_iff (block : Block) : '\n' ∉ block.comment.toList ↔
    '\n' ∉ block.displayName.toList ∧ '\n' ∉ block.node.toList := by
  unfold comment
  simp [String.toList_append, List.mem_append]

/-- The lines of a block whose comment may hold newlines. -/
def brokenLines (block : Block) : List String := linesOf block.comment ++ block.rest

variable {block : Block} (hcode : ∀ line ∈ block.code, '\n' ∉ line)

include hcode

/-- Whatever follows the comment are single lines, if the code has such lines. -/
lemma newline_not_mem_rest {line : String} (hline : line ∈ block.rest) : '\n' ∉ line.toList := by
  unfold rest at hline
  rw [List.cons_append, List.mem_cons, List.mem_append] at hline
  rcases hline with rfl | hline | hline
  · decide
  · obtain ⟨code, hmem, rfl⟩ := List.mem_map.mp hline
    split
    · decide
    · simpa using hcode code hmem
  · have hlast : ∀ line ∈ ["  \x7d", ""], '\n' ∉ line.toList := by decide
    exact hlast line hline

/-- The lines of a block, where its comment is broken at its line breaks. -/
lemma flatMap_linesOf_lines : block.lines.flatMap linesOf = block.brokenLines := by
  have hrest : block.rest.flatMap linesOf = block.rest.flatMap fun line => [line] :=
    List.flatMap_congr fun line hline => linesOf_of_unbroken (newline_not_mem_rest hcode hline)
  rw [lines_eq, List.flatMap_cons, hrest, List.flatMap_singleton', brokenLines]

/-- A block has single lines only exactly if the title and the id are such. -/
lemma unbroken_lines_iff : (∀ line ∈ block.lines, '\n' ∉ line.toList) ↔
    '\n' ∉ block.displayName.toList ∧ '\n' ∉ block.node.toList := by
  rw [lines_eq, List.forall_mem_cons, newline_not_mem_comment_iff]
  exact and_iff_left fun line => newline_not_mem_rest hcode

end Block

/-! ### The blocks of a scene -/

/-- The block shows the code that the node with the given id runs. -/
structure Scene.IsBlock (scene : Scene) (id : String) (block : Block) : Prop where
  node_eq : block.node = id
  exists_body : ∃ scope code, Scope.of? scene id = some scope ∧
    scope.body.outcome = .ok (some code) ∧ block.displayName = scope.type.displayName ∧
    block.code = Text.lines (Text.trimNewlines code)

/-- Whether the node with the given id is known and runs code that is not blank. -/
def Scene.emits (scene : Scene) (id : String) : Bool :=
  ((Scope.of? scene id).bind fun scope => scope.body.value?.join).any fun code =>
    !Text.allBlank code

namespace Scene

variable {scene : Scene}

/-- The code of a block is cut at its line breaks. -/
lemma IsBlock.unbroken {id : String} {block : Block} (h : scene.IsBlock id block) :
    ∀ line ∈ block.code, '\n' ∉ line := by
  obtain ⟨scope, code, -, -, -, hcode⟩ := h.exists_body
  rw [hcode]
  exact fun line => Text.not_mem_of_mem_splitOn

/-- A node either runs no code and has no block, or has the block of its code. -/
lemma block?_cases {id : String} {found : Option Block}
    (h : (scene.block? id).outcome = .ok found) :
    (found = none ∧ scene.emits id = false) ∨
      ∃ block, found = some block ∧ scene.emits id = true ∧ scene.IsBlock id block := by
  unfold block? at h
  unfold emits
  cases hof : Scope.of? scene id with
  | none =>
    rw [hof] at h
    cases hnode : scene.node? id with
    | none =>
      rw [hnode] at h
      cases h
      exact Or.inl ⟨rfl, rfl⟩
    | some node =>
      rw [hnode] at h
      cases h
      exact Or.inl ⟨rfl, rfl⟩
  | some scope =>
    rw [hof] at h
    dsimp only at h
    rw [Traced.outcome_bind] at h
    obtain ⟨code?, hbody, h⟩ := bind_eq_ok_iff.mp h
    have hvalue := Traced.value?_eq_some_iff.mpr hbody
    cases code? with
    | none =>
      cases h
      exact Or.inl ⟨rfl, by simp [hvalue]⟩
    | some code =>
      dsimp only at h
      by_cases hblank : Text.allBlank code = true
      · rw [if_pos hblank] at h
        cases h
        exact Or.inl ⟨rfl, by simp [hvalue, hblank]⟩
      · rw [if_neg hblank] at h
        cases h
        exact Or.inr ⟨_, rfl, by simp [hvalue, hblank], rfl, scope, code, hof, hbody, rfl, rfl⟩

/-- The blocks of an order are those of its nodes that emit code. -/
lemma forall₂_isBlock_of_mapM {order : List String} {found : List (Option Block)}
    (h : order.mapM (fun id => (scene.block? id).outcome) = .ok found) :
    List.Forall₂ scene.IsBlock (order.filter scene.emits) (found.filterMap id) := by
  induction order generalizing found with
  | nil =>
    cases h
    exact List.Forall₂.nil
  | cons first rest ih =>
    rw [List.mapM_cons] at h
    obtain ⟨block?, hblock?, h⟩ := bind_eq_ok_iff.mp h
    obtain ⟨others, hothers, h⟩ := bind_eq_ok_iff.mp h
    cases h
    have hrest := ih hothers
    rcases block?_cases hblock? with ⟨rfl, hemits⟩ | ⟨block, rfl, hemits, hblock⟩
    · rw [List.filter_cons_of_neg (by simp [hemits]), List.filterMap_cons_none rfl]
      exact hrest
    · have hfound : (some block :: others).filterMap id = block :: others.filterMap id :=
        List.filterMap_cons_some rfl
      rw [List.filter_cons_of_pos hemits, hfound]
      exact List.Forall₂.cons hblock hrest

/-- The nodes that run code have their blocks, in the order in which they run. -/
lemma forall₂_isBlock {blocks : List Block} (h : scene.blocks.outcome = .ok blocks) :
    List.Forall₂ scene.IsBlock (scene.order.filter scene.emits) blocks := by
  unfold Scene.blocks at h
  rw [Traced.outcome_bind, Traced.outcome_mapM] at h
  obtain ⟨found, hfound, h⟩ := bind_eq_ok_iff.mp h
  cases h
  exact forall₂_isBlock_of_mapM hfound

/-- The code in blocks is cut into lines. -/
lemma unbroken_of_mem {ids : List String} {blocks : List Block}
    (h : List.Forall₂ scene.IsBlock ids blocks) {block : Block} (hblock : block ∈ blocks) :
    ∀ line ∈ block.code, '\n' ∉ line := by
  induction h with
  | nil => cases hblock
  | cons hfirst _ ih =>
    rcases List.mem_cons.mp hblock with rfl | hmem
    · exact hfirst.unbroken
    · exact ih hmem

end Scene

/-! ### The main code of a request -/

namespace Request

/-- What the main code of a request is made of. -/
structure Commented (request : Request) (scene : Scene) (blocks : List Block) : Prop where
  /-- The main code joins the lines of the blocks. -/
  mainCode : ∀ generation : request.Generation,
    generation.program.mainCode = "\n".intercalate (blocks.flatMap Block.lines)
  /-- There is one block for every node of the order that runs code. -/
  ordered : List.Forall₂ scene.IsBlock (request.order.filter scene.emits) blocks
  /-- A newline breaks a comment; all other lines are what they are meant to be. -/
  lines : IsLines ("\n".intercalate (blocks.flatMap Block.lines))
    (blocks.flatMap Block.brokenLines)
  /-- Every comment is one line exactly when no title and no id holds a newline. -/
  intact : IsLines ("\n".intercalate (blocks.flatMap Block.lines)) (blocks.flatMap Block.lines) ↔
    ∀ block ∈ blocks, '\n' ∉ block.displayName.toList ∧ '\n' ∉ block.node.toList
  /-- The code depends on ids by their cleaned form only, and on titles not at all. -/
  relabeled : ∀ (ρ : Relabeling) (other : Request), request.Relabels ρ other →
    ∃ found, other.blocks = .ok found ∧ List.Forall₂
      (fun block image => image.node = ρ.label block.node ∧ image.code = block.code) blocks found

/-- The main code consists, node by node in the order in which they run, of a comment, the code of
the node in braces and an empty line.  Titles and ids stand in the comments alone, unless they hold
newlines. -/
theorem commented_of_blocks {request : Request} {scene : Scene} {blocks : List Block}
    (hscene : request.specialized = .ok scene) (hblocks : scene.blocks.outcome = .ok blocks) :
    request.Commented scene blocks := by
  have hordered := Scene.forall₂_isBlock hblocks
  have hcode : ∀ block ∈ blocks, ∀ line ∈ block.code, '\n' ∉ line :=
    fun block => Scene.unbroken_of_mem hordered
  have hspecialized := hscene
  unfold specialized at hscene
  obtain ⟨base, hbase, hscene⟩ := bind_eq_ok_iff.mp hscene
  obtain ⟨renames, hplan, hscene⟩ := bind_eq_ok_iff.mp hscene
  cases hscene
  constructor
  · intro generation
    have hsame := generation.scene_eq
    rw [hbase] at hsame
    cases hsame
    rw [generation.plan_eq] at hplan
    cases hplan
    obtain ⟨_, found, _, -, hfound, -, hprogram⟩ := Scene.exists_of_program generation.program_eq
    rw [hblocks] at hfound
    cases hfound
    rw [hprogram]
  · rw [← (isScene_of_scene hbase).order]
    exact hordered
  · -- only the comments are broken further: the code was cut into lines before
    have hlines := isLines_flatMap_linesOf (blocks.flatMap Block.lines)
    rwa [List.flatMap_assoc,
      List.flatMap_congr fun block hblock => Block.flatMap_linesOf_lines (hcode block hblock)]
      at hlines
  · have hunbroken : (∀ line ∈ blocks.flatMap Block.lines, '\n' ∉ line.toList) ↔
        ∀ block ∈ blocks, '\n' ∉ block.displayName.toList ∧ '\n' ∉ block.node.toList := by
      rw [List.forall_mem_flatMap]
      exact forall₂_congr fun block hblock => Block.unbroken_lines_iff (hcode block hblock)
    rw [← hunbroken]
    exact ⟨fun h => h.unbroken, fun h => ⟨rfl, h⟩⟩
  · intro ρ other h
    refine h.exists_blocks ?_
    unfold Request.blocks
    rw [hspecialized]
    exact hblocks

/-- Two ids that look the same when they are cleaned can be exchanged. -/
def exchange (x y : String) (h : Identifier.clean x = Identifier.clean y) : Relabeling where
  label := Equiv.swap x y
  injective := (Equiv.swap x y).injective
  clean_label := by
    intro id
    rw [Equiv.swap_apply_def]
    split
    · next hx => rw [hx, h]
    split
    · next hy => rw [hy, h]
    · rfl

/-- A type whose nodes have one output and nothing else. -/
def oneType (title : String) : NodeType where
  id := "one"
  displayName := title
  category := "Numbers"
  inputs := []
  outputs := [⟨"out", .float, none⟩]
  parameters := Table.empty
  mainCode := "$output.out = 1.0;"
  functions := none
  description := ""

/-- A node with the given id, alone in its graph. -/
def alone (id title : String) : Request where
  graph := { nodes := [⟨id, "one", Table.empty, Table.empty⟩], wires := [] }
  catalog := ⟨Table.ofList [("one", oneType title)]⟩
  settings := {}
  order := [id]
  uniforms := none
  renames := none

/-- The catalog has one type. -/
lemma find?_alone (id title typeId : String) :
    (alone id title).catalog.find? typeId =
      if "one" = typeId then some (oneType title) else none :=
  rfl

/-- The id and the title of a lonely node may be replaced. -/
lemma relabels_alone {id other : String} (h : Identifier.clean id = Identifier.clean other)
    (title title' : String) :
    (alone id title).Relabels (exchange id other h) (alone other title') := by
  have hlabel : (exchange id other h).label id = other := Equiv.swap_apply_left id other
  constructor
  · simp [alone, Relabeling.onGraph, Relabeling.onNode, hlabel]
  · intro typeId
    rw [find?_alone, find?_alone]
    split <;> rfl
  · rfl
  · simp [alone, hlabel]
  · refine Or.inl ⟨rfl, rfl, fun typeId type htype => ?_⟩
    rw [find?_alone] at htype
    split at htype
    · cases htype
      exact ⟨by simp [oneType], by simp [oneType, Table.keys, Table.empty]⟩
    · cases htype
  · rfl

/-- A node whose id goes on behind a newline. -/
def smuggling : Request := alone "a\n  discard; // b" "One"

/-- The id of a node breaks out of its comment; the code of the node is the same as under an id
without newlines. -/
theorem commented_of_blocks_smuggling :
    ∃ scene blocks, smuggling.specialized = .ok scene ∧ scene.blocks.outcome = .ok blocks ∧
      smuggling.Commented scene blocks ∧
      blocks.flatMap Block.brokenLines =
        ["  // Node: One (a", "  discard; // b)", "  \x7b",
          "    node_a___discard_____b_out = 1.0;", "  \x7d", ""] ∧
      ∃ ρ, smuggling.Relabels ρ (alone "a---discard-----b" "Eins") := by
  have hscene : smuggling.specialized = .ok (smuggling.specialized.toOption.getD default) :=
    eq_ok_of_isSome_toOption default (by decide +kernel)
  have hblocks : (smuggling.specialized.toOption.getD default).blocks.outcome = .ok _ :=
    eq_ok_of_isSome_toOption default (by decide +kernel)
  exact ⟨_, _, hscene, hblocks, commented_of_blocks hscene hblocks, by decide +kernel,
    _, relabels_alone (by decide) _ _⟩

end Request

end ShaderLoom
