import ShaderLoom.Proofs.RenamedHelpers

/-!
# Texts of helpers

Finding helpers splits code: the texts of the helpers stand in the code one behind the other, each
from its return type to the brace that closes its body, and nothing that is a definition lies
between them.  Code with brackets that are never closed is split up to the head in front of such a
bracket.

A helper is known by its text.  Helpers that were found in any code, written one below the other,
are found again.
-/

namespace ShaderLoom.Helper

open Text

/-! ### Closing brackets -/

section Brackets

variable {opening closing : Char} {depth : Nat} {text inside outside : List Char}

/-- Behind `depth` open brackets, the text closes all of them at its end and at no place before. -/
def Closes (opening closing : Char) (depth : Nat) (text : List Char) : Prop :=
  ∀ start, start <+: text → (start.count closing = start.count opening + depth ↔ start = text)

/-- Behind `depth` open brackets, the text does not close all of them at any place. -/
def NeverCloses (opening closing : Char) (depth : Nat) (text : List Char) : Prop :=
  ∀ start, start <+: text → start.count closing ≠ start.count opening + depth

/-- What one character does to the number of open brackets. -/
lemma count_cons_iff (hne : opening ≠ closing) (c : Char) (start : List Char) :
    (c :: start).count closing = (c :: start).count opening + (depth + 1) ↔
      start.count closing = start.count opening +
        if c = opening then depth + 2 else if c = closing then depth else depth + 1 := by
  rw [List.count_cons, List.count_cons]
  by_cases hopening : c = opening
  · have hclosing : c ≠ closing := fun h => hne (hopening.symm.trans h)
    simp only [hopening, beq_self_eq_true, if_true, beq_iff_eq, if_neg hne]
    omega
  · by_cases hclosing : c = closing
    · simp only [hclosing, beq_self_eq_true, if_true, beq_iff_eq, if_neg hne.symm]
      omega
    · simp only [beq_iff_eq, if_neg hopening, if_neg hclosing]
      omega

/-- Whether a text closes the open brackets is told character by character. -/
lemma closes_cons_iff (hne : opening ≠ closing) {c : Char} :
    Closes opening closing (depth + 1) (c :: text) ↔ Closes opening closing
      (if c = opening then depth + 2 else if c = closing then depth else depth + 1) text := by
  constructor
  · intro h start hstart
    rw [← count_cons_iff hne, h (c :: start) (List.cons_prefix_cons.mpr ⟨rfl, hstart⟩)]
    simp
  · intro h start hstart
    rcases List.prefix_cons_iff.mp hstart with rfl | ⟨start, rfl, hrest⟩
    · simp
    · rw [count_cons_iff hne, h start hrest]
      simp

/-- Whether a text never closes the open brackets is told character by character. -/
lemma neverCloses_cons_iff (hne : opening ≠ closing) {c : Char} :
    NeverCloses opening closing (depth + 1) (c :: text) ↔ NeverCloses opening closing
      (if c = opening then depth + 2 else if c = closing then depth else depth + 1) text := by
  constructor
  · intro h start hstart
    rw [ne_eq, ← count_cons_iff hne]
    exact h (c :: start) (List.cons_prefix_cons.mpr ⟨rfl, hstart⟩)
  · intro h start hstart
    rcases List.prefix_cons_iff.mp hstart with rfl | ⟨start, rfl, hrest⟩
    · simp
    · rw [ne_eq, count_cons_iff hne]
      exact h start hrest

lemma closes_zero_iff : Closes opening closing 0 text ↔ text = [] := by
  constructor
  · intro h
    exact ((h [] List.nil_prefix).mp rfl).symm
  · rintro rfl start hstart
    rw [List.prefix_nil.mp hstart]
    simp

lemma not_closes_succ_nil : ¬Closes opening closing (depth + 1) [] := by
  intro h
  exact absurd ((h [] List.nil_prefix).mpr rfl) (by simp)

/-- Without open brackets the cut is at the front. -/
lemma cutAtClosing_zero_eq_some_iff :
    cutAtClosing opening closing 0 text = some (inside, outside) ↔
      text = inside ++ outside ∧ Closes opening closing 0 inside := by
  rw [cutAtClosing, Option.some.injEq, Prod.mk.injEq, closes_zero_iff]
  constructor
  · rintro ⟨rfl, rfl⟩
    exact ⟨rfl, rfl⟩
  · rintro ⟨rfl, rfl⟩
    exact ⟨rfl, rfl⟩

/-- A text is cut where its brackets are closed. -/
theorem cutAtClosing_eq_some_iff (hne : opening ≠ closing) :
    cutAtClosing opening closing depth text = some (inside, outside) ↔
      text = inside ++ outside ∧ Closes opening closing depth inside := by
  induction text generalizing depth inside with
  | nil =>
    cases depth with
    | zero => exact cutAtClosing_zero_eq_some_iff
    | succ depth =>
      refine iff_of_false (by simp [cutAtClosing]) ?_
      rintro ⟨hnil, hcloses⟩
      rw [(List.append_eq_nil_iff.mp hnil.symm).1] at hcloses
      exact not_closes_succ_nil hcloses
  | cons c rest ih =>
    cases depth with
    | zero => exact cutAtClosing_zero_eq_some_iff
    | succ depth =>
      rw [cutAtClosing, Option.map_eq_some_iff]
      constructor
      · rintro ⟨⟨inner, tail⟩, hcut, heq⟩
        cases heq
        obtain ⟨rfl, hcloses⟩ := ih.mp hcut
        exact ⟨rfl, (closes_cons_iff hne).mpr hcloses⟩
      · rintro ⟨htext, hcloses⟩
        cases inside with
        | nil => exact absurd hcloses not_closes_succ_nil
        | cons d inner =>
          cases htext
          exact ⟨(inner, outside), ih.mpr ⟨rfl, (closes_cons_iff hne).mp hcloses⟩, rfl⟩

/-- There is no cut exactly where the brackets are never closed. -/
theorem cutAtClosing_eq_none_iff (hne : opening ≠ closing) :
    cutAtClosing opening closing depth text = none ↔ NeverCloses opening closing depth text := by
  fun_induction cutAtClosing opening closing depth text with
  | case1 text =>
    refine iff_of_false (by simp) fun h => ?_
    exact h [] List.nil_prefix rfl
  | case2 depth =>
    refine iff_of_true rfl fun start hstart => ?_
    rw [List.prefix_nil.mp hstart]
    simp
  | case3 depth c rest depth' ih =>
    rw [Option.map_eq_none_iff, neverCloses_cons_iff hne]
    exact ih

end Brackets

/-! ### Definitions -/

/-- The helper is written out in its text: return type, gap, name, space, the parameters in
parentheses, blanks, and the body in braces. -/
structure IsWritten (helper : Helper) (gap space parameters blank body : List Char) : Prop where
  returnType_mem : helper.returnType ∈ returnTypes
  gap_ne_nil : gap ≠ []
  gap_blank : AllBlank gap
  name : IsName helper.name
  space_blank : AllBlank space
  parameters_close : Closes '(' ')' 1 (parameters ++ [')'])
  parameterTypes_eq : helper.parameterTypes = parameterTypesOf parameters
  blank_blank : AllBlank blank
  body_close : Closes '{' '}' 1 (body ++ ['}'])
  text_eq : helper.text = helper.returnType.toList ++ (gap ++ (helper.name.toList ++
    (space ++ '(' :: (parameters ++ ')' :: (blank ++ '{' :: (body ++ ['}']))))))

/-- The text of the helper is a definition of the helper. -/
def IsDefinition (helper : Helper) : Prop :=
  ∃ gap space parameters blank body, helper.IsWritten gap space parameters blank body

/-- The brackets behind a head are not closed: those of the parameters, or those of the body. -/
def Unclosed (text : List Char) : Prop :=
  NeverCloses '(' ')' 1 text ∨ ∃ parameters blank body,
    text = parameters ++ (blank ++ '{' :: body) ∧ Closes '(' ')' 1 parameters ∧
      AllBlank blank ∧ NeverCloses '{' '}' 1 body

/-- A head stands at the front of a text that follows `before`, and its brackets are not closed. -/
def OpensUnclosed (before : Option Char) (text : List Char) : Prop :=
  isWordSide before = false ∧ ∃ head gap space rest, IsHead head gap space ∧
    text = head.source ++ rest ∧ Unclosed rest

/-- A definition stands at the front of a text that follows `before`. -/
def Begins (before : Option Char) (text : List Char) : Prop :=
  isWordSide before = false ∧ ∃ helper rest, IsDefinition helper ∧ text = helper.text ++ rest

section Written

variable {helper : Helper} {gap space parameters blank body : List Char}

/-- The front of a helper's text. -/
def headWith (helper : Helper) (gap space : List Char) : Head :=
  ⟨helper.returnType, helper.name.toList,
    helper.returnType.toList ++ (gap ++ (helper.name.toList ++ (space ++ ['('])))⟩

namespace IsWritten

variable (h : helper.IsWritten gap space parameters blank body)

include h

lemma isHead : IsHead (helper.headWith gap space) gap space where
  returnType_mem := h.returnType_mem
  gap_ne_nil := h.gap_ne_nil
  gap_blank := h.gap_blank
  name_ne_nil := h.name.1
  name_word := h.name.2
  space_blank := h.space_blank
  source_eq := rfl

lemma isBody : IsBody (parameters ++ [')']) blank (body ++ ['}']) :=
  ⟨⟨parameters, rfl⟩, h.blank_blank, ⟨body, rfl⟩⟩

/-- A definition is put together from its head, its parameters and its body. -/
lemma eq_assembled :
    helper = assembled (helper.headWith gap space) (parameters ++ [')']) blank (body ++ ['}']) := by
  have htext := h.text_eq
  have htypes := h.parameterTypes_eq
  cases helper
  dsimp only at htext htypes
  subst htext htypes
  simp [assembled, headWith]

lemma text_ne_nil : helper.text ≠ [] := by
  rw [h.text_eq]
  simp

/-- The text of a helper behind its head. -/
lemma text_append (rest : List Char) :
    helper.text ++ rest = (helper.headWith gap space).source ++
      (parameters ++ [')'] ++ (blank ++ '{' :: (body ++ ['}'] ++ rest))) := by
  rw [h.text_eq]
  simp [headWith]

/-- A text that begins with a helper's text is read as the helper. -/
lemma readFrom_eq (rest : List Char) :
    readFrom (helper.headWith gap space) (helper.text ++ rest) = .definition helper := by
  have hparameters : cutAtClosing '(' ')' 1
      (parameters ++ [')'] ++ (blank ++ '{' :: (body ++ ['}'] ++ rest))) =
        some (parameters ++ [')'], blank ++ '{' :: (body ++ ['}'] ++ rest)) :=
    (cutAtClosing_eq_some_iff (by decide)).mpr ⟨rfl, h.parameters_close⟩
  have hbody : cutAtClosing '{' '}' 1 (body ++ ['}'] ++ rest) = some (body ++ ['}'], rest) :=
    (cutAtClosing_eq_some_iff (by decide)).mpr ⟨rfl, h.body_close⟩
  have hbrace : NotStarting isBlank ('{' :: (body ++ ['}'] ++ rest)) :=
    notStarting_cons.mpr (by decide)
  rw [h.text_append, readFrom_of_open hparameters (dropWhile_run h.blank_blank hbrace), hbody,
    takeWhile_run h.blank_blank hbrace, Option.map_some, Option.getD_some]
  exact congrArg Reading.definition h.eq_assembled.symm

/-- A helper is found at the front of a text that begins with its text. -/
lemma extractAfter_append {before : Option Char} (hbefore : isWordSide before = false)
    (rest : List Char) :
    extractAfter before (helper.text ++ rest) = helper :: extractAfter (some '}') rest := by
  have hread := h.readFrom_eq rest
  rw [h.text_append] at hread
  have hfound := extractAfter_of_definition hbefore h.isHead h.isBody
    (hread.trans (congrArg Reading.definition h.eq_assembled))
    (by rw [← h.text_append, ← h.eq_assembled])
  rw [← h.text_append, ← h.eq_assembled] at hfound
  exact hfound

end IsWritten

/-- A head, parameters and a body make a definition. -/
lemma isWritten_assembled {head : Head} (his : IsHead head gap space)
    (hparameters : Closes '(' ')' 1 (parameters ++ [')'])) (hblank : AllBlank blank)
    (hbody : Closes '{' '}' 1 (body ++ ['}'])) :
    (assembled head (parameters ++ [')']) blank (body ++ ['}'])).IsWritten gap space parameters
      blank body where
  returnType_mem := his.returnType_mem
  gap_ne_nil := his.gap_ne_nil
  gap_blank := his.gap_blank
  name := by simpa [assembled, IsName] using And.intro his.name_ne_nil his.name_word
  space_blank := his.space_blank
  parameters_close := hparameters
  parameterTypes_eq := by simp [assembled]
  blank_blank := hblank
  body_close := hbody
  text_eq := by simp [assembled, his.source_eq]

/-- What stands behind a head: brackets that are not closed, no body, or a definition. -/
lemma readFrom_cases {head : Head} (his : IsHead head gap space) (rest : List Char) :
    (readFrom head (head.source ++ rest) = .unclosed ∧ Unclosed rest) ∨
      readFrom head (head.source ++ rest) = .bodiless ∨
      ∃ helper parameters blank body after, helper.IsWritten gap space parameters blank body ∧
        readFrom head (head.source ++ rest) = .definition helper ∧
        head.source ++ rest = helper.text ++ after := by
  cases hcut : cutAtClosing '(' ')' 1 rest with
  | none =>
    have hnever := (cutAtClosing_eq_none_iff (by decide)).mp hcut
    exact Or.inl ⟨readFrom_of_unclosed hcut, Or.inl hnever⟩
  | some cut =>
    obtain ⟨parameters, afterParameters⟩ := cut
    obtain ⟨rfl, hparameters⟩ := (cutAtClosing_eq_some_iff (by decide)).mp hcut
    obtain ⟨-, parameters', rfl⟩ := eq_append_of_cutAtClosing hcut
    obtain ⟨blank, afterBlank, rfl, hblank, hafterBlank⟩ := exists_run isBlank afterParameters
    have hdrop := dropWhile_run hblank hafterBlank
    by_cases hopen : ∃ inside, afterBlank = '{' :: inside
    · obtain ⟨inside, rfl⟩ := hopen
      rw [readFrom_of_open hcut hdrop, takeWhile_run hblank hafterBlank]
      cases hcut' : cutAtClosing '{' '}' 1 inside with
      | none =>
        have hnever := (cutAtClosing_eq_none_iff (by decide)).mp hcut'
        exact Or.inl ⟨rfl, Or.inr ⟨_, blank, inside, rfl, hparameters, hblank, hnever⟩⟩
      | some cut' =>
        obtain ⟨body, after⟩ := cut'
        obtain ⟨rfl, hbody⟩ := (cutAtClosing_eq_some_iff (by decide)).mp hcut'
        obtain ⟨-, body', rfl⟩ := eq_append_of_cutAtClosing hcut'
        refine Or.inr (Or.inr ⟨_, parameters', blank, body', after, ?_, rfl, ?_⟩)
        · exact isWritten_assembled his hparameters hblank hbody
        · simp [assembled]
    · refine Or.inr (Or.inl (readFrom_of_not_open hcut fun inside heq => hopen ⟨inside, ?_⟩))
      rw [← heq, hdrop]

end Written

/-! ### Where no definition begins -/

/-- No definition begins in the text, which follows `before`, when `rest` follows it. -/
def Quiet (before : Option Char) (rest : List Char) : List Char → Prop
  | [] => True
  | c :: text => ¬Begins before (c :: text ++ rest) ∧ Quiet (some c) rest text

section Quiet

variable {before : Option Char} {text rest : List Char}

/-- A definition begins with a head. -/
lemma Begins.exists_isHead (h : Begins before text) :
    ∃ head gap space rest, IsHead head gap space ∧ text = head.source ++ rest ∧
      ∃ helper, readFrom head (head.source ++ rest) = .definition helper := by
  obtain ⟨-, helper, rest, ⟨gap, space, parameters, blank, body, hwritten⟩, rfl⟩ := h
  have hread := hwritten.readFrom_eq rest
  rw [hwritten.text_append] at hread ⊢
  exact ⟨_, gap, space, _, hwritten.isHead, rfl, helper, hread⟩

/-- No definition begins where no head is found. -/
lemma not_begins_of_head?_eq_none (h : head? before text = none) : ¬Begins before text := by
  intro hbegins
  obtain ⟨head, gap, space, rest, his, rfl, -⟩ := hbegins.exists_isHead
  rw [head?_eq_some_iff.mpr ⟨hbegins.1, gap, space, rest, his, rfl⟩] at h
  cases h

/-- No definition begins in two texts exactly if none begins in either. -/
lemma quiet_append {a b : List Char} :
    Quiet before rest (a ++ b) ↔ Quiet before (b ++ rest) a ∧ Quiet (lastOf before a) rest b := by
  induction a generalizing before with
  | nil => simp [Quiet]
  | cons c a ih =>
    have htext : c :: (a ++ b) ++ rest = c :: a ++ (b ++ rest) := by simp
    rw [List.cons_append, Quiet, Quiet, ih, lastOf_cons, and_assoc, htext]

/-- In a word, a definition can begin only at the front. -/
lemma quiet_word {word : List Char} (hword : AllWord word) (h : ¬Begins before (word ++ rest)) :
    Quiet before rest word := by
  induction word generalizing before with
  | nil => trivial
  | cons c word ih =>
    rw [allWord_cons] at hword
    have hc : isWordSide (some c) = true := hword.1
    refine ⟨h, ih hword.2 fun hbegins => ?_⟩
    rw [hbegins.1] at hc
    cases hc

/-- A definition begins with a word character. -/
lemma quiet_of_not_word {gap : List Char} (hgap : ∀ c ∈ gap, isWord c = false) :
    Quiet before rest gap := by
  induction gap generalizing before with
  | nil => trivial
  | cons c gap ih =>
    refine ⟨?_, ih fun d hd => hgap d (List.mem_cons_of_mem c hd)⟩
    exact not_begins_of_head?_eq_none
      (head?_eq_none_of_not_word (hgap c List.mem_cons_self) before _)

/-- A word in front of a parenthesis is not the return type of a head. -/
lemma head?_call_eq_none {name space : List Char} (hname : AllWord name) (hspace : AllBlank space) :
    head? before (name ++ (space ++ '(' :: rest)) = none := by
  cases hhead : head? before (name ++ (space ++ '(' :: rest)) with
  | none => rfl
  | some head =>
    obtain ⟨-, gap, space', rest', his, heq⟩ := head?_eq_some_iff.mp hhead
    rw [his.source_append] at heq
    obtain ⟨-, heq⟩ := run_unique heq hname (notStarting_isWord_space hspace rest)
      (allWord_of_mem_returnTypes his.returnType_mem).2
      (notStarting_isWord_of_allBlank his.gap_ne_nil his.gap_blank _)
    obtain ⟨-, heq⟩ := run_unique heq hspace (notStarting_isBlank_parenthesis rest) his.gap_blank
      (notStarting_isBlank_of_allWord his.name_ne_nil his.name_word _)
    have hside := isWordSide_head?_append his.name_ne_nil his.name_word (space' ++ '(' :: rest')
    rw [← heq] at hside
    have hparen : isWord '(' = true := hside
    exact absurd hparen (by decide)

/-- No definition begins inside a head without a body. -/
lemma quiet_head {head : Head} {gap space : List Char} (his : IsHead head gap space)
    (h : readFrom head (head.source ++ rest) = .bodiless) : Quiet before rest head.source := by
  have hparenthesis : ∀ c ∈ space ++ ['('], isWord c = false := by
    intro c hc
    rcases List.mem_append.mp hc with hc | hc
    · exact isWord_eq_false_of_isBlank (his.space_blank c hc)
    · rw [List.mem_singleton.mp hc]
      decide
  have hfront : ¬Begins before (head.source ++ rest) := by
    intro hbegins
    obtain ⟨head', gap', space', rest', his', heq, helper, hread⟩ := hbegins.exists_isHead
    obtain rfl := his.unique his' heq
    rw [← heq, h] at hread
    cases hread
  rw [his.source_eq] at hfront ⊢
  refine quiet_append.mpr ⟨?_, quiet_append.mpr ⟨?_, quiet_append.mpr ⟨?_, ?_⟩⟩⟩
  · rw [List.append_assoc] at hfront
    exact quiet_word (allWord_of_mem_returnTypes his.returnType_mem).2 hfront
  · exact quiet_of_not_word fun c hc => isWord_eq_false_of_isBlank (his.gap_blank c hc)
  · refine quiet_word his.name_word (not_begins_of_head?_eq_none ?_)
    simpa using head?_call_eq_none his.name_word his.space_blank
  · exact quiet_of_not_word hparenthesis

end Quiet

/-! ### The helpers of a text -/

/-- A text that follows `before` is split into definitions and what lies between them. -/
inductive Split : Option Char → List Char → List Helper → Prop
  /-- No definition is left. -/
  | rest {before : Option Char} {text : List Char} (quiet : Quiet before [] text) :
      Split before text []
  /-- A bracket that is not closed ends the search. -/
  | unclosed {before : Option Char} {gap text : List Char} (quiet : Quiet before text gap)
      (opens : OpensUnclosed (lastOf before gap) text) : Split before (gap ++ text) []
  /-- The first definition is found, and the search goes on behind it. -/
  | found {before : Option Char} {gap text : List Char} {helper : Helper} {helpers : List Helper}
      (quiet : Quiet before (helper.text ++ text) gap)
      (boundary : isWordSide (lastOf before gap) = false) (definition : helper.IsDefinition)
      (rest : Split (some '}') text helpers) :
      Split before (gap ++ (helper.text ++ text)) (helper :: helpers)

/-- What lies in front of the first definition may be longer. -/
lemma Quiet.split_append {before : Option Char} {gap text : List Char} {helpers : List Helper}
    (hgap : Quiet before text gap) (h : Split (lastOf before gap) text helpers) :
    Split before (gap ++ text) helpers := by
  generalize hside : lastOf before gap = side at h
  cases h with
  | rest quiet =>
    subst hside
    refine .rest (quiet_append.mpr ⟨?_, quiet⟩)
    rwa [List.append_nil]
  | unclosed quiet opens =>
    subst hside
    rw [← List.append_assoc]
    refine .unclosed (quiet_append.mpr ⟨hgap, quiet⟩) ?_
    rwa [lastOf_append]
  | found quiet boundary definition rest =>
    subst hside
    rw [← List.append_assoc]
    refine .found (quiet_append.mpr ⟨hgap, quiet⟩) ?_ definition rest
    rwa [lastOf_append]

/-- Finding helpers splits a text. -/
theorem split_extractAfter (before : Option Char) (text : List Char) :
    Split before text (extractAfter before text) := by
  induction h : text.length using Nat.strongRecOn generalizing before text with
  | _ n ih =>
    cases hhead : head? before text with
    | none =>
      cases text with
      | nil =>
        rw [extractAfter_nil]
        exact .rest trivial
      | cons c rest =>
        rw [List.length_cons] at h
        rw [extractAfter_cons hhead]
        have hquiet : Quiet before rest [c] := ⟨not_begins_of_head?_eq_none hhead, trivial⟩
        exact hquiet.split_append (ih rest.length (by omega) (some c) rest rfl)
    | some head =>
      obtain ⟨hbefore, gap, space, rest, his, rfl⟩ := head?_eq_some_iff.mp hhead
      have hsource := List.length_pos_iff.mpr his.source_ne_nil
      rw [List.length_append] at h
      rcases readFrom_cases his rest with ⟨hread, hunclosed⟩ | hread |
        ⟨helper, parameters, blank, body, after, hwritten, -, hafter⟩
      · rw [extractAfter_of_unclosed hbefore his hread]
        have hsplit : Split before ([] ++ (head.source ++ rest)) [] :=
          .unclosed trivial ⟨hbefore, head, gap, space, rest, his, rfl, hunclosed⟩
        exact hsplit
      · rw [extractAfter_of_bodiless hbefore his hread]
        refine (quiet_head his hread).split_append ?_
        rw [his.lastOf_source]
        exact ih rest.length (by omega) _ rest rfl
      · have hlength : after.length < n := by
          have hsum := congrArg List.length hafter
          have hpos := List.length_pos_iff.mpr hwritten.text_ne_nil
          rw [List.length_append, List.length_append] at hsum
          omega
        have hsplit : Split before ([] ++ (helper.text ++ after))
            (helper :: extractAfter (some '}') after) :=
          .found trivial hbefore ⟨gap, space, parameters, blank, body, hwritten⟩
            (ih after.length hlength _ after rfl)
        rw [hafter, hwritten.extractAfter_append hbefore]
        exact hsplit

/-- What is found is a definition. -/
lemma Split.isDefinition {before : Option Char} {text : List Char} {helpers : List Helper}
    (h : Split before text helpers) : ∀ helper ∈ helpers, helper.IsDefinition := by
  induction h with
  | rest => exact List.forall_mem_nil _
  | unclosed => exact List.forall_mem_nil _
  | found _ _ definition _ ih => exact List.forall_mem_cons.mpr ⟨definition, ih⟩

/-- The texts of helpers, written one below the other. -/
def listing (helpers : List Helper) : String :=
  "\n\n".intercalate (helpers.map fun helper => String.ofList helper.text)

/-- The listing of one helper is its text. -/
lemma toList_listing_singleton (helper : Helper) : (listing [helper]).toList = helper.text := by
  unfold listing
  rw [String.toList_intercalate]
  simp [List.intercalate]

/-- Helpers are listed with an empty line between them. -/
lemma toList_listing_cons_cons (first second : Helper) (rest : List Helper) :
    (listing (first :: second :: rest)).toList =
      first.text ++ (['\n', '\n'] ++ (listing (second :: rest)).toList) := by
  have hmark : "\n\n".toList = ['\n', '\n'] := rfl
  unfold listing
  rw [String.toList_intercalate, String.toList_intercalate, hmark]
  simp [List.intercalate]

/-- Definitions that are written one below the other are found again. -/
theorem extractAfter_listing {before : Option Char} (hbefore : isWordSide before = false)
    {helpers : List Helper} (h : ∀ helper ∈ helpers, helper.IsDefinition) :
    extractAfter before (listing helpers).toList = helpers := by
  induction helpers generalizing before with
  | nil => exact extractAfter_nil before
  | cons first rest ih =>
    rw [List.forall_mem_cons] at h
    obtain ⟨gap, space, parameters, blank, body, hwritten⟩ := h.1
    cases rest with
    | nil =>
      rw [toList_listing_singleton, ← List.append_nil first.text,
        hwritten.extractAfter_append hbefore, extractAfter_nil]
    | cons second rest =>
      have hnewline : isWord '\n' = false := by decide
      have hgap : ∀ c ∈ ['\n', '\n'], isWord c = false := by simp [hnewline]
      rw [toList_listing_cons_cons, hwritten.extractAfter_append hbefore,
        extractAfter_gap_append _ hgap]
      exact congrArg (List.cons first) (ih hnewline h.2)

/-- Finding helpers splits code, be its brackets closed or not, into definitions and what lies
between them, where no definition begins.  Helpers that were found somewhere, written one below the
other, are found again with their types, names and texts. -/
theorem extract_splits :
    (∀ code, Split none code (extract code)) ∧
      ∀ helpers : List Helper, (∀ helper ∈ helpers, ∃ code, helper ∈ extract code) →
        extract (listing helpers).toList = helpers := by
  refine ⟨split_extractAfter none, fun helpers h => ?_⟩
  refine extractAfter_listing rfl fun helper hhelper => ?_
  obtain ⟨code, hcode⟩ := h helper hhelper
  exact (split_extractAfter none code).isDefinition helper hcode

/-- A prototype, and a helper with text like another one inside. -/
def nestedHelper : List Char :=
  "float f(int x); int g(int a) \x7b if (a) \x7b a++; \x7d bool h() \x7b \x7d return 0; \x7d".toList

/-- A brace too many, a helper and a head that is never closed. -/
def unclosedHelper : List Char := "\x7d void k ( )\x7b \x7d mat2 m(( float n() \x7b \x7d".toList

/-- One helper of each text is found, and both are found again. -/
theorem extract_splits_nestedHelper :
    (extract nestedHelper ++ extract unclosedHelper).map (fun helper =>
        (helper.name, String.ofList helper.text)) =
      [("g", "int g(int a) \x7b if (a) \x7b a++; \x7d bool h() \x7b \x7d return 0; \x7d"),
       ("k", "void k ( )\x7b \x7d")] ∧
    extract (listing (extract nestedHelper ++ extract unclosedHelper)).toList =
      extract nestedHelper ++ extract unclosedHelper := by
  refine ⟨by decide +kernel, extract_splits.2 _ fun helper hhelper => ?_⟩
  rcases List.mem_append.mp hhelper with hhelper | hhelper
  · exact ⟨nestedHelper, hhelper⟩
  · exact ⟨unclosedHelper, hhelper⟩

end ShaderLoom.Helper
