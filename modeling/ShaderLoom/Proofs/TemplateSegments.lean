import Mathlib.Data.List.Basic
import ShaderLoom.Proofs.WholeWords
import ShaderLoom.Template.Render

/-!
# Segments of templates

A template is taken apart without loss: when every hole is filled with its own text, the template
comes out again.  The literals between holes are as long as can be, and they hold no hole, neither
in their template nor by themselves.  The second does not follow from the first alone, since a word
boundary looks at the characters on both sides of it; it holds because no word runs across the
place where a hole begins or ends.
-/

namespace ShaderLoom.Template

open Text

/-! ### Scanning -/

section Scan

variable {α : Type}

/-- No hole is recognised at any place of `text`, which follows `before` and is followed by
`rest`. -/
def Plain (recognise : Option Char → List Char → Option α) (before : Option Char)
    (text rest : List Char) : Prop :=
  ∀ start c tail, text = start ++ c :: tail →
    recognise (lastOf before start) (c :: tail ++ rest) = none

/-- How a text that follows `before` is cut into segments: a hole wherever one is recognised, and
one literal for all that stands between two holes. -/
inductive IsScan (recognise : Option Char → List Char → Option α) (source : α → List Char) :
    Option Char → List Char → List (Segment α) → Prop
  | nil (before : Option Char) : IsScan recognise source before [] []
  | hole {before : Option Char} {hole : α} {rest : List Char} {segments : List (Segment α)} :
    recognise before (source hole ++ rest) = some hole →
    IsScan recognise source (lastOf before (source hole)) rest segments →
    IsScan recognise source before (source hole ++ rest) (.hole hole :: segments)
  | literal {before : Option Char} {text rest : List Char} {segments : List (Segment α)} :
    text ≠ [] → Plain recognise before text rest →
    (∀ next, segments.head? ≠ some (.literal next)) →
    IsScan recognise source (lastOf before text) rest segments →
    IsScan recognise source before (text ++ rest) (.literal text :: segments)

/-- A hole is recognised only where its text stands, and no word runs across the places where the
text begins and ends. -/
structure Sound (recognise : Option Char → List Char → Option α) (source : α → List Char) :
    Prop where
  source_ne_nil : ∀ hole, source hole ≠ []
  found : ∀ before text hole, recognise before text = some hole →
    ∃ rest, text = source hole ++ rest ∧ Apart before text ∧
      Apart (lastOf before (source hole)) rest

variable {recognise : Option Char → List Char → Option α} {source : α → List Char}
  {before : Option Char} {text rest : List Char} {segments : List (Segment α)}

/-- Nothing is recognised at the end of a text. -/
lemma Sound.nil (hsound : Sound recognise source) (before : Option Char) :
    recognise before [] = none := by
  cases hfound : recognise before [] with
  | none => rfl
  | some hole =>
    obtain ⟨rest, htext, -, -⟩ := hsound.found before [] hole hfound
    exact absurd (List.append_eq_nil_iff.mp htext.symm).1 (hsound.source_ne_nil hole)

lemma plain_nil : Plain recognise before [] rest := by
  intro start c tail h
  simp at h

/-- A text is plain when nothing is recognised at any of its places. -/
lemma plain_cons {c : Char} : Plain recognise before (c :: text) rest ↔
    recognise before (c :: text ++ rest) = none ∧ Plain recognise (some c) text rest := by
  constructor
  · intro h
    refine ⟨h [] c text rfl, fun start d tail htext => ?_⟩
    have hplace := h (c :: start) d tail (by rw [htext]; rfl)
    rwa [lastOf_cons] at hplace
  · rintro ⟨hfirst, hrest⟩ start d tail htext
    cases start with
    | nil =>
      cases htext
      exact hfirst
    | cons e start =>
      cases htext
      rw [lastOf_cons]
      exact hrest start d tail rfl

lemma scan_nil : scan recognise source before [] = [] := by
  rw [scan.eq_def]

/-- Where a hole is recognised, the scan goes on behind its text. -/
lemma scan_hole {hole : α} (hne : source hole ≠ [])
    (h : recognise before (source hole ++ rest) = some hole) :
    scan recognise source before (source hole ++ rest) =
      .hole hole :: scan recognise source (lastOf before (source hole)) rest := by
  obtain ⟨c, tail, htext⟩ := List.exists_cons_of_ne_nil
    (List.append_ne_nil_of_left_ne_nil hne rest)
  have hdrop : tail.drop ((source hole).length - 1) = rest := drop_length_sub_one hne htext.symm
  rw [scan.eq_def]
  split
  · next heq =>
    rw [htext] at heq
    cases heq
  · next heq =>
    rw [htext] at heq
    cases heq
    rw [← htext, h]
    dsimp only
    rw [hdrop]

/-- Where no hole is recognised, one character joins a literal. -/
lemma scan_cons {c : Char} (h : recognise before (c :: rest) = none) :
    scan recognise source before (c :: rest) =
      consLiteral c (scan recognise source (some c) rest) := by
  rw [scan.eq_def]
  dsimp only
  rw [h]

/-- A plain character in front of a scan belongs to its first text. -/
lemma isScan_consLiteral {c : Char} (h : recognise before (c :: rest) = none)
    (hrest : IsScan recognise source (some c) rest segments) :
    IsScan recognise source before (c :: rest) (consLiteral c segments) := by
  have hone : ∀ rest, recognise before (c :: rest) = none → Plain recognise before [c] rest :=
    fun rest h => plain_cons.mpr ⟨h, plain_nil⟩
  cases hrest with
  | nil => exact .literal (List.cons_ne_nil c []) (hone _ h) (by simp) (.nil _)
  | hole hfound hsegments =>
    exact .literal (List.cons_ne_nil c []) (hone _ h) (by simp) (.hole hfound hsegments)
  | literal hne hplain hnext hsegments =>
    refine .literal (List.cons_ne_nil c _) (plain_cons.mpr ⟨h, hplain⟩) hnext ?_
    rwa [lastOf_cons]

/-- Scanning cuts a text as it should be cut. -/
theorem isScan_scan (hsound : Sound recognise source) (before : Option Char) (text : List Char) :
    IsScan recognise source before text (scan recognise source before text) := by
  induction h : text.length using Nat.strongRecOn generalizing before text with
  | _ n ih =>
    cases text with
    | nil =>
      rw [scan_nil]
      exact .nil before
    | cons c rest =>
      rw [List.length_cons] at h
      cases hfound : recognise before (c :: rest) with
      | none =>
        rw [scan_cons hfound]
        exact isScan_consLiteral hfound (ih rest.length (by omega) _ _ rfl)
      | some hole =>
        obtain ⟨after, htext, -, -⟩ := hsound.found before _ hole hfound
        have hne := hsound.source_ne_nil hole
        have hlength : after.length < n := by
          have hsum := congrArg List.length htext
          have hpos := List.length_pos_iff.mpr hne
          rw [List.length_cons, List.length_append] at hsum
          omega
        rw [htext] at hfound ⊢
        rw [scan_hole hne hfound]
        exact .hole hfound (ih after.length hlength _ _ rfl)

/-- A text without holes is one literal. -/
lemma scan_of_plain (hne : text ≠ []) (h : Plain recognise before text []) :
    scan recognise source before text = [.literal text] := by
  induction text generalizing before with
  | nil => exact absurd rfl hne
  | cons c text ih =>
    obtain ⟨hfirst, hrest⟩ := plain_cons.mp h
    rw [List.append_nil] at hfirst
    rw [scan_cons hfirst]
    cases text with
    | nil =>
      rw [scan_nil]
      rfl
    | cons d text =>
      rw [ih (List.cons_ne_nil d text) hrest]
      rfl

namespace IsScan

/-- The segments make up the text. -/
lemma flatMap_source (h : IsScan recognise source before text segments) :
    segments.flatMap (Segment.source source) = text := by
  induction h with
  | nil => rfl
  | hole _ _ ih =>
    rw [List.flatMap_cons, ih]
    rfl
  | literal _ _ _ _ ih =>
    rw [List.flatMap_cons, ih]
    rfl

/-- The texts of a scan are not empty. -/
lemma literal_ne_nil (h : IsScan recognise source before text segments) {literal : List Char}
    (hmem : .literal literal ∈ segments) : literal ≠ [] := by
  induction h with
  | nil => cases hmem
  | hole _ _ ih => exact ih ((List.mem_cons.mp hmem).resolve_left (by simp))
  | literal hne _ _ _ ih =>
    rcases List.mem_cons.mp hmem with heq | hmem
    · cases heq
      exact hne
    · exact ih hmem

/-- No literal follows another. -/
lemma not_adjacent (h : IsScan recognise source before text segments)
    {left right : List (Segment α)} {first second : List Char} :
    segments ≠ left ++ .literal first :: .literal second :: right := by
  induction h generalizing left with
  | nil => simp
  | hole _ _ ih =>
    intro heq
    cases left with
    | nil => cases heq
    | cons segment left =>
      cases heq
      exact ih rfl
  | literal _ _ hnext _ ih =>
    intro heq
    cases left with
    | nil =>
      cases heq
      exact hnext second rfl
    | cons segment left =>
      cases heq
      exact ih rfl

/-- A hole among the segments was recognised at its place. -/
lemma exists_of_append_hole (h : IsScan recognise source before text segments)
    {left right : List (Segment α)} {hole : α}
    (hsegments : segments = left ++ .hole hole :: right) :
    ∃ before' rest, recognise before' (source hole ++ rest) = some hole ∧
      IsScan recognise source (lastOf before' (source hole)) rest right := by
  induction h generalizing left with
  | nil => simp at hsegments
  | hole hfound hrest ih =>
    cases left with
    | nil =>
      cases hsegments
      exact ⟨_, _, hfound, hrest⟩
    | cons segment left =>
      cases hsegments
      exact ih rfl
  | literal _ _ _ _ ih =>
    cases left with
    | nil => cases hsegments
    | cons segment left =>
      cases hsegments
      exact ih rfl

/-- Where the segments do not begin with a literal, no word runs across the place before them. -/
lemma apart_of_head? (hsound : Sound recognise source)
    (h : IsScan recognise source before text segments)
    (hhead : ∀ next, segments.head? ≠ some (.literal next)) : Apart before text := by
  cases h with
  | nil => exact Or.inr rfl
  | hole hfound _ =>
    obtain ⟨-, -, hapart, -⟩ := hsound.found _ _ _ hfound
    exact hapart
  | literal => exact absurd rfl (hhead _)

/-- A literal holds no hole at its place, and no word runs across its two ends. -/
lemma exists_of_mem_literal (hsound : Sound recognise source)
    (h : IsScan recognise source before text segments) (hstart : Apart before text)
    {literal : List Char} (hmem : .literal literal ∈ segments) :
    ∃ before' rest, Plain recognise before' literal rest ∧ Apart before' (literal ++ rest) ∧
      Apart (lastOf before' literal) rest := by
  induction h with
  | nil => cases hmem
  | hole hfound _ ih =>
    obtain ⟨rest', htext, -, hend⟩ := hsound.found _ _ _ hfound
    have hrest := List.append_cancel_left htext
    subst hrest
    exact ih hend ((List.mem_cons.mp hmem).resolve_left (by simp))
  | literal _ hplain hnext hrest ih =>
    have hend := hrest.apart_of_head? hsound hnext
    rcases List.mem_cons.mp hmem with heq | hmem
    · cases heq
      exact ⟨_, _, hplain, hstart, hend⟩
    · exact ih hend hmem

end IsScan

end Scan

/-! ### Recognising holes -/

/-- The word that follows `start` at the front of a text ends where word characters end. -/
lemma wordAfter?_eq_some_iff {start : String} {text : List Char} {word : String} :
    wordAfter? start text = some word ↔
      ∃ rest, text = start.toList ++ (word.toList ++ rest) ∧ word.toList ≠ [] ∧
        AllWord word.toList ∧ isWordSide rest.head? = false := by
  unfold wordAfter?
  constructor
  · intro h
    split at h
    · cases h
    · next tail hafter =>
      rw [after?_eq_some_iff] at hafter
      obtain ⟨run, rest, rfl, hrun, hrest⟩ := exists_run isWord tail
      rw [takeWhile_run hrun hrest] at h
      split at h
      · cases h
      · next hne =>
        cases h
        rw [String.toList_ofList]
        exact ⟨rest, hafter, hne, hrun, notStarting_isWord_iff.mp hrest⟩
  · rintro ⟨rest, htext, hne, hword, hrest⟩
    have hafter := after?_eq_some_iff.mpr htext
    rw [hafter]
    dsimp only
    rw [takeWhile_run hword (notStarting_isWord_iff.mpr hrest)]
    split
    · next hnil => exact absurd hnil hne
    · rw [String.ofList_toList]

/-- A word follows `start` whatever comes behind the text. -/
lemma isSome_wordAfter?_append {start : String} {text : List Char} (rest : List Char)
    (h : (wordAfter? start text).isSome = true) :
    (wordAfter? start (text ++ rest)).isSome = true := by
  obtain ⟨word, hword⟩ := Option.isSome_iff_exists.mp h
  obtain ⟨tail, rfl, hne, hall, -⟩ := wordAfter?_eq_some_iff.mp hword
  -- the word may go on in the text that comes behind
  obtain ⟨run, tail', htail, hrun, hrest⟩ := exists_run isWord (tail ++ rest)
  refine Option.isSome_iff_exists.mpr ⟨String.ofList (word.toList ++ run), ?_⟩
  refine wordAfter?_eq_some_iff.mpr ⟨tail', ?_, ?_, ?_, notStarting_isWord_iff.mp hrest⟩
  · simp [htail]
  · simp [hne]
  · rw [String.toList_ofList]
    exact allWord_append.mpr ⟨hall, hrun⟩

lemma keyword_allWord (value : Global) :
    value.keyword.toList ≠ [] ∧ AllWord value.keyword.toList := by
  have hall : value.keyword.toList.all isWord = true := by
    cases value <;> decide
  refine ⟨?_, fun c hc => List.all_eq_true.mp hall c hc⟩
  cases value <;> decide

/-- A global value is named at the front of a text when a dollar sign and its whole name stand
there. -/
lemma isSome_global?_iff {text : List Char} :
    (global? text).isSome = true ↔ ∃ (value : Global) (rest : List Char),
      text = (Placeholder.global value).source ++ rest ∧ isWordSide rest.head? = false := by
  unfold global?
  rw [List.find?_isSome]
  constructor
  · rintro ⟨value, -, h⟩
    split at h
    · cases h
    · next rest hafter =>
      exact ⟨value, rest, after?_eq_some_iff.mp hafter, by simpa using h⟩
  · rintro ⟨value, rest, htext, hrest⟩
    refine ⟨value, by cases value <;> simp, ?_⟩
    rw [after?_eq_some_iff.mpr htext]
    simpa using hrest

/-- A global value is recognised by its whole keyword. -/
lemma source_of_global? {text : List Char} {value : Global} (h : global? text = some value) :
    ∃ rest, text = (Placeholder.global value).source ++ rest ∧ isWordSide rest.head? = false := by
  have hsome := List.find?_some h
  split at hsome
  · cases hsome
  · next rest hafter => exact ⟨rest, after?_eq_some_iff.mp hafter, by simpa using hsome⟩

/-- The keyword of the result is a word. -/
lemma allWord_result : Placeholder.result.source ≠ [] ∧ AllWord Placeholder.result.source := by
  have hall : Placeholder.result.source.all isWord = true := by decide
  exact ⟨by decide, fun c hc => List.all_eq_true.mp hall c hc⟩

lemma placeholder_source_ne_nil (placeholder : Placeholder) : placeholder.source ≠ [] := by
  cases placeholder with
  | input port => exact List.append_ne_nil_of_left_ne_nil (by decide) _
  | output port => exact List.append_ne_nil_of_left_ne_nil (by decide) _
  | param name => exact List.append_ne_nil_of_left_ne_nil (by decide) _
  | global value => exact List.cons_ne_nil _ _
  | result => exact allWord_result.1

/-- The ways in which a placeholder is recognised. -/
lemma isSome_placeholder?_iff {before : Option Char} {text : List Char} :
    (placeholder? before text).isSome = true ↔
      (∃ start ∈ ["$input.", "$output.", "$param."], (wordAfter? start text).isSome = true) ∨
        (global? text).isSome = true ∨
          standsWhole Placeholder.result.source before text = true := by
  unfold placeholder?
  cases hinput : wordAfter? "$input." text <;> cases houtput : wordAfter? "$output." text <;>
    cases hparam : wordAfter? "$param." text <;> cases hglobal : global? text <;>
    cases hresult : standsWhole Placeholder.result.source before text <;>
    simp [hinput, houtput, hparam]

/-- A placeholder stands where it is recognised; it follows no word, and no word character comes
behind it. -/
lemma source_of_placeholder? {before : Option Char} {text : List Char} {placeholder : Placeholder}
    (h : placeholder? before text = some placeholder) :
    ∃ rest, text = placeholder.source ++ rest ∧ Apart before text ∧
      isWordSide rest.head? = false := by
  have hdollar : ∀ (start : String) (tail : List Char), start.toList.head? = some '$' →
      Apart before (start.toList ++ tail) := by
    intro start tail hstart
    right
    rw [List.head?_append, hstart]
    exact (by decide : isWord '$' = false)
  unfold placeholder? at h
  split at h
  · next port hport =>
    cases h
    obtain ⟨rest, rfl, -, -, hrest⟩ := wordAfter?_eq_some_iff.mp hport
    exact ⟨rest, (List.append_assoc _ _ _).symm, hdollar _ _ (by decide), hrest⟩
  split at h
  · next port hport =>
    cases h
    obtain ⟨rest, rfl, -, -, hrest⟩ := wordAfter?_eq_some_iff.mp hport
    exact ⟨rest, (List.append_assoc _ _ _).symm, hdollar _ _ (by decide), hrest⟩
  split at h
  · next name hname =>
    cases h
    obtain ⟨rest, rfl, -, -, hrest⟩ := wordAfter?_eq_some_iff.mp hname
    exact ⟨rest, (List.append_assoc _ _ _).symm, hdollar _ _ (by decide), hrest⟩
  split at h
  · next value hvalue =>
    cases h
    obtain ⟨rest, rfl, hrest⟩ := source_of_global? hvalue
    exact ⟨rest, rfl, Or.inr (by decide : isWord '$' = false), hrest⟩
  split at h
  · next hresult =>
    cases h
    obtain ⟨hbefore, rest, rfl, hrest⟩ :=
      (standsWhole_iff allWord_result.1 allWord_result.2).mp hresult
    exact ⟨rest, rfl, Or.inl hbefore, hrest⟩
  · cases h

/-- A placeholder is recognised where its source stands. -/
lemma sound_placeholder? : Sound placeholder? Placeholder.source where
  source_ne_nil := placeholder_source_ne_nil
  found := by
    intro before text placeholder h
    obtain ⟨rest, htext, hstart, hend⟩ := source_of_placeholder? h
    exact ⟨rest, htext, hstart, Or.inr hend⟩

/-- An index stands in brackets and holds none. -/
lemma index?_eq_some {text index : List Char} (h : index? text = some index) :
    ∃ rest, text = '[' :: (index ++ ']' :: rest) ∧ '[' ∉ index := by
  unfold index? at h
  split at h
  · next tail =>
    obtain ⟨run, rest, rfl, hrun, hrest⟩ := exists_run (fun c => c != '[' && c != ']') tail
    rw [dropWhile_run hrun hrest, takeWhile_run hrun hrest] at h
    split at h
    · next rest =>
      cases h
      refine ⟨rest, rfl, fun hmem => ?_⟩
      exact absurd (hrun '[' hmem) (by decide)
    · cases h
  · cases h

/-- A hole is a placeholder, or a parameter with an index behind it. -/
lemma hole?_cases {before : Option Char} {text : List Char} {hole : Hole}
    (h : hole? before text = some hole) :
    (∃ placeholder, hole = .plain placeholder ∧ placeholder? before text = some placeholder) ∨
      ∃ name index rest, hole = .element name index ∧
        placeholder? before text = some (.param name) ∧
        text = (Placeholder.param name).source ++ '[' :: (index ++ ']' :: rest) ∧
        '[' ∉ index := by
  unfold hole? at h
  split at h
  · cases h
  · next name hname =>
    split at h
    · next index hindex =>
      cases h
      obtain ⟨tail, rfl, -, -⟩ := source_of_placeholder? hname
      rw [List.drop_left] at hindex
      obtain ⟨rest, rfl, hplain⟩ := index?_eq_some hindex
      exact Or.inr ⟨name, index, rest, rfl, hname, rfl, hplain⟩
    · cases h
      exact Or.inl ⟨.param name, rfl, hname⟩
  · next placeholder _ hplaceholder =>
    cases h
    exact Or.inl ⟨placeholder, rfl, hplaceholder⟩

/-- There is a hole where there is a placeholder. -/
lemma isSome_hole? (before : Option Char) (text : List Char) :
    (hole? before text).isSome = (placeholder? before text).isSome := by
  unfold hole?
  split
  · next h =>
    rw [h]
    rfl
  · next h =>
    rw [h]
    split <;> rfl
  · next h =>
    rw [h]
    rfl

/-- A hole begins exactly where a placeholder does. -/
lemma hole?_eq_none_iff {before : Option Char} {text : List Char} :
    hole? before text = none ↔ (placeholder? before text).isSome = false := by
  rw [← isSome_hole?, Option.isSome_eq_false_iff, Option.isNone_iff_eq_none]

/-- A hole is recognised where its source stands. -/
lemma sound_hole? : Sound hole? Hole.source where
  source_ne_nil := by
    intro hole
    cases hole with
    | plain placeholder => exact placeholder_source_ne_nil placeholder
    | element name index => simp [Hole.source]
  found := by
    intro before text hole h
    rcases hole?_cases h with
      ⟨placeholder, rfl, hfound⟩ | ⟨name, index, rest, rfl, hfound, htext, -⟩
    · obtain ⟨rest, htext, hstart, hend⟩ := source_of_placeholder? hfound
      exact ⟨rest, htext, hstart, Or.inr hend⟩
    · obtain ⟨-, -, hstart, -⟩ := source_of_placeholder? hfound
      have hlast : isWordSide (lastOf before (Hole.element name index).source) = false := by
        have hbracket : isWord ']' = false := by decide
        simpa [Hole.source, isWordSide] using hbracket
      exact ⟨rest, by rw [htext]; simp [Hole.source], hstart, Or.inl hlast⟩

/-- The segments of a template are its scan for holes. -/
lemma isScan_segments (template : String) :
    IsScan hole? Hole.source none template.toList (segments template) :=
  isScan_scan sound_hole? none template.toList

/-- The segments of an index are its scan for placeholders. -/
lemma isScan_indexSegments (index : List Char) :
    IsScan placeholder? Placeholder.source none index (indexSegments index) :=
  isScan_scan sound_placeholder? none index

/-! ### Literals by themselves -/

/-- A placeholder that is recognised in a piece of text is recognised where the piece stands, if no
word runs across the ends of the piece. -/
lemma isSome_placeholder?_append {before before' : Option Char} {text rest : List Char}
    (hbefore : isWordSide before = false → isWordSide text.head? = true →
      isWordSide before' = false)
    (hafter : Apart (lastOf before' text) rest) (h : (placeholder? before text).isSome = true) :
    (placeholder? before' (text ++ rest)).isSome = true := by
  -- a word at the end of the piece is not continued by what follows
  have hend : ∀ start word tail : List Char, word ≠ [] → AllWord word →
      text = start ++ (word ++ tail) → isWordSide tail.head? = false →
      isWordSide (tail ++ rest).head? = false := by
    rintro start word tail hne hword rfl htail
    cases tail with
    | cons c tail => exact htail
    | nil =>
      rcases hafter with hlast | hhead
      · rw [List.append_nil, lastOf_append, isWordSide_lastOf_of_allWord hne hword] at hlast
        cases hlast
      · exact hhead
  rw [isSome_placeholder?_iff] at h ⊢
  rcases h with ⟨start, hstart, h⟩ | h | h
  · exact Or.inl ⟨start, hstart, isSome_wordAfter?_append rest h⟩
  · refine Or.inr (Or.inl (isSome_global?_iff.mpr ?_))
    obtain ⟨value, tail, htext, htail⟩ := isSome_global?_iff.mp h
    obtain ⟨hne, hword⟩ := keyword_allWord value
    exact ⟨value, tail ++ rest, by rw [htext, List.append_assoc],
      hend ['$'] _ tail hne hword htext htail⟩
  · obtain ⟨hne, hword⟩ := allWord_result
    refine Or.inr (Or.inr ((standsWhole_iff hne hword).mpr ?_))
    obtain ⟨hside, tail, htext, htail⟩ := (standsWhole_iff hne hword).mp h
    have hhead : isWordSide text.head? = true := by
      rw [htext]
      exact isWordSide_head?_append hne hword tail
    exact ⟨hbefore hside hhead, tail ++ rest, by rw [htext, List.append_assoc],
      hend [] _ tail hne hword htext htail⟩

/-- A literal that holds no hole at its place holds none by itself. -/
lemma plain_alone {before : Option Char} {literal rest : List Char}
    (h : Plain hole? before literal rest) (hstart : Apart before (literal ++ rest))
    (hend : Apart (lastOf before literal) rest) : Plain hole? none literal [] := by
  intro start c tail hliteral
  have hnone := hole?_eq_none_iff.mp (h start c tail hliteral)
  rw [List.append_nil, hole?_eq_none_iff]
  by_contra hsome
  rw [Bool.not_eq_false] at hsome
  refine absurd hnone ?_
  rw [Bool.not_eq_false]
  refine isSome_placeholder?_append ?_ ?_ hsome
  · intro hside hhead
    cases start with
    | nil =>
      -- the piece is the whole literal
      rcases hstart with hbefore | hfirst
      · exact hbefore
      · rw [hliteral] at hfirst
        exact absurd hhead (by simpa using hfirst)
    | cons d start =>
      rw [lastOf_cons] at hside ⊢
      exact hside
  · rwa [hliteral, lastOf_append] at hend

/-- The literals of a template hold no hole by themselves. -/
lemma plain_of_mem_segments {template : String} {literal : List Char}
    (h : .literal literal ∈ segments template) : Plain hole? none literal [] := by
  obtain ⟨before, rest, hplain, hstart, hend⟩ :=
    (isScan_segments template).exists_of_mem_literal sound_hole? (Or.inl rfl) h
  exact plain_alone hplain hstart hend

/-! ### Indices -/

/-- A segment of an index as a segment of a template. -/
def Segment.ofIndex : Segment Placeholder → Segment Hole
  | .literal text => .literal text
  | .hole placeholder => .hole (.plain placeholder)

/-- The segments of an index are those of a template, text by text. -/
lemma map_ofIndex_consLiteral (c : Char) (found : List (Segment Placeholder)) :
    (consLiteral c found).map Segment.ofIndex = consLiteral c (found.map Segment.ofIndex) := by
  cases found with
  | nil => rfl
  | cons segment found => cases segment <;> rfl

/-- Where there are no brackets, the holes are the placeholders. -/
lemma hole?_of_no_bracket {before : Option Char} {text : List Char} (h : '[' ∉ text) :
    hole? before text = (placeholder? before text).map Hole.plain := by
  cases hfound : hole? before text with
  | none =>
    have hnone := hole?_eq_none_iff.mp hfound
    rw [Option.isSome_eq_false_iff, Option.isNone_iff_eq_none] at hnone
    rw [hnone]
    rfl
  | some hole =>
    rcases hole?_cases hfound with
      ⟨placeholder, rfl, hplaceholder⟩ | ⟨name, index, rest, -, -, htext, -⟩
    · rw [hplaceholder]
      rfl
    · rw [htext] at h
      simp at h

/-- A text without brackets has the same segments as an index and as a template. -/
lemma scan_hole?_of_no_bracket (before : Option Char) {text : List Char} (h : '[' ∉ text) :
    scan hole? Hole.source before text =
      (scan placeholder? Placeholder.source before text).map Segment.ofIndex := by
  induction hlength : text.length using Nat.strongRecOn generalizing before text with
  | _ n ih =>
    cases text with
    | nil =>
      rw [scan_nil, scan_nil]
      rfl
    | cons c rest =>
      have hhole : hole? before (c :: rest) = (placeholder? before (c :: rest)).map Hole.plain :=
        hole?_of_no_bracket h
      cases hfound : placeholder? before (c :: rest) with
      | none =>
        rw [hfound, Option.map_none] at hhole
        rw [scan_cons hhole, scan_cons hfound, map_ofIndex_consLiteral]
        rw [ih rest.length (by rw [← hlength]; simp) (some c)
          (fun hmem => h (List.mem_cons_of_mem c hmem)) rfl]
      | some placeholder =>
        rw [hfound, Option.map_some] at hhole
        obtain ⟨after, htext, -, -⟩ := source_of_placeholder? hfound
        have hne := placeholder_source_ne_nil placeholder
        have hafter : after.length < n := by
          have hpos := List.length_pos_iff.mpr hne
          rw [← hlength, htext, List.length_append]
          omega
        rw [htext] at hhole hfound h ⊢
        rw [scan_hole hne hfound]
        have hscan : scan hole? Hole.source before ((Hole.plain placeholder).source ++ after) =
            .hole (.plain placeholder) ::
              scan hole? Hole.source (lastOf before placeholder.source) after :=
          scan_hole hne hhole
        rw [show placeholder.source = (Hole.plain placeholder).source from rfl, hscan,
          ih after.length hafter _ (fun hmem => h (List.mem_append_right _ hmem)) rfl]
        rfl

/-- An index is taken apart like a template. -/
theorem segments_ofList_index {template : String} {name : String} {index : List Char}
    (h : .hole (.element name index) ∈ segments template) :
    segments (String.ofList index) = (indexSegments index).map Segment.ofIndex := by
  obtain ⟨left, right, hsegments⟩ := List.append_of_mem h
  obtain ⟨before, rest, hfound, -⟩ :=
    (isScan_segments template).exists_of_append_hole hsegments
  rcases hole?_cases hfound with ⟨placeholder, hplain, -⟩ | ⟨_, _, _, helement, -, -, hbracket⟩
  · cases hplain
  · cases helement
    unfold segments indexSegments
    rw [String.toList_ofList]
    exact scan_hole?_of_no_bracket none hbracket

/-! ### Templates are kept -/

/-- The resolver that answers with what stands in the template. -/
def echo : Resolver Id where
  input port := "$input." ++ port
  output port := "$output." ++ port
  param name
    | none => "$param." ++ name
    | some index => "$param." ++ name ++ "[" ++ index ++ "]"
  global value := "$" ++ value.keyword
  result := "result"

/-- Segments that are filled with their own texts make up the text they came from. -/
lemma concat_source {α : Type} {fill : α → Id String} {source : α → List Char}
    (h : ∀ hole, (fill hole).run = String.ofList (source hole)) (found : List (Segment α)) :
    (concat fill found).run = String.ofList (found.flatMap (Segment.source source)) := by
  induction found with
  | nil => rfl
  | cons segment found ih =>
    rw [List.flatMap_cons, String.ofList_append, ← ih]
    cases segment with
    | literal text => rfl
    | hole hole =>
      show (fill hole).run ++ (concat fill found).run = _
      rw [h]
      rfl

lemma echo_fill (placeholder : Placeholder) :
    (echo.fill placeholder).run = String.ofList placeholder.source := by
  have hword : ∀ start word : String,
      start ++ word = String.ofList (start.toList ++ word.toList) := by
    intro start word
    rw [String.ofList_append, String.ofList_toList, String.ofList_toList]
  cases placeholder with
  | input port => exact hword _ port
  | output port => exact hword _ port
  | param name => exact hword _ name
  | global value => exact hword "$" value.keyword
  | result => exact String.ofList_toList.symm

/-- The echo fills a hole with its source. -/
lemma echo_fillHole (hole : Hole) : (echo.fillHole hole).run = String.ofList hole.source := by
  cases hole with
  | plain placeholder => exact echo_fill placeholder
  | element name index =>
    have hindex : (concat echo.fill (indexSegments index)).run = String.ofList index := by
      rw [concat_source echo_fill, (isScan_indexSegments index).flatMap_source]
    have hname := echo_fill (.param name)
    show (echo.fill (.param name)).run ++ "[" ++ (concat echo.fill (indexSegments index)).run ++
      "]" = _
    rw [hindex, hname]
    unfold Hole.source
    rw [String.ofList_append, String.ofList_append, String.ofList_cons, ← String.append_assoc]
    rfl

/-- What taking a template apart preserves. -/
structure Kept (template : String) : Prop where
  /-- Holes that are filled with their own texts give the template back. -/
  echoed : (render echo template).run = template
  nonempty : ∀ text, .literal text ∈ segments template → text ≠ []
  /-- No literal follows another. -/
  apart : ∀ left first second right,
    segments template ≠ left ++ .literal first :: .literal second :: right
  /-- No hole stands at any place of a literal. -/
  plain : ∀ text, .literal text ∈ segments template → ∀ start rest, text = start ++ rest →
    hole? start.getLast? rest = none
  /-- A literal, taken as a template, is a literal. -/
  reread : ∀ text, .literal text ∈ segments template →
    segments (String.ofList text) = [.literal text]
  /-- There are no indices inside indices. -/
  flat : ∀ name index, .hole (.element name index) ∈ segments template →
    ∀ name' index', .hole (.element name' index') ∉ segments (String.ofList index)

/-- Taking a template apart loses nothing. -/
theorem segments_kept (template : String) : Kept template where
  echoed := by
    unfold render
    rw [concat_source echo_fillHole, (isScan_segments template).flatMap_source,
      String.ofList_toList]
  nonempty _ h := (isScan_segments template).literal_ne_nil h
  apart _ _ _ _ := (isScan_segments template).not_adjacent
  plain := by
    rintro text h start rest rfl
    cases rest with
    | nil => exact sound_hole?.nil _
    | cons c rest =>
      have hplace := plain_of_mem_segments h start c rest rfl
      rw [List.append_nil] at hplace
      simpa [lastOf] using hplace
  reread := by
    intro text h
    have hne := (isScan_segments template).literal_ne_nil h
    unfold segments
    rw [String.toList_ofList]
    exact scan_of_plain hne (plain_of_mem_segments h)
  flat := by
    intro name index h name' index' hmem
    rw [segments_ofList_index h] at hmem
    obtain ⟨segment, -, hsegment⟩ := List.mem_map.mp hmem
    cases segment with
    | literal text => cases hsegment
    | hole placeholder => cases hsegment

end ShaderLoom.Template
