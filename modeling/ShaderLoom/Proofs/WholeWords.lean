import Mathlib.Data.List.Basic
import ShaderLoom.Proofs.CharacterClasses
import ShaderLoom.Proofs.TextPieces

/-!
# Whole words

A word stands whole in a text where no word character comes before or after it.  Such a place
cannot lie across a character that is no word character, so it belongs to one of the pieces into
which newlines, blanks or other characters cut the text.  Therefore it stays when the text is cut
into lines, when lines are put together, and when indentation or newlines at the ends are taken
away.
-/

namespace ShaderLoom.Text

/-- `word` stands whole at some place of a text that follows the character `before`. -/
def HasWord (word : List Char) (before : Option Char) (text : List Char) : Prop :=
  ∃ left right, text = left ++ (word ++ right) ∧ isWordSide (lastOf before left) = false ∧
    isWordSide right.head? = false

lemma hasWord_self (word : List Char) : HasWord word none word :=
  ⟨[], [], by simp, rfl, rfl⟩

/-- There are no word characters on both sides of a place. -/
def Apart (before : Option Char) (rest : List Char) : Prop :=
  isWordSide before = false ∨ isWordSide rest.head? = false

/-- A text that does not begin with a word character has no such start either. -/
lemma isWordSide_head?_of_append {a b : List Char} (h : isWordSide (a ++ b).head? = false) :
    isWordSide a.head? = false := by
  cases a with
  | nil => rfl
  | cons c a => exact h

/-- A mark behind a text does not make it begin with a word. -/
lemma isWordSide_head?_append_cons {a : List Char} {c : Char} (ha : isWordSide a.head? = false)
    (hc : isWord c = false) (b : List Char) : isWordSide (a ++ c :: b).head? = false := by
  cases a with
  | nil => exact hc
  | cons d a => exact ha

/-- The last character of a word is a word character. -/
lemma isWordSide_lastOf_of_allWord {word : List Char} (hne : word ≠ []) (hword : AllWord word)
    (before : Option Char) : isWordSide (lastOf before word) = true := by
  obtain ⟨start, c, rfl⟩ := List.eq_nil_or_concat word |>.resolve_left hne
  have hc : isWord c = true := hword c (by simp)
  rw [List.concat_eq_append, lastOf_append, lastOf_cons, lastOf_nil]
  exact hc

section Word

variable {word : List Char} (hne : word ≠ []) (hword : AllWord word)

include hne hword

/-! ### Looking for a word -/

/-- A word stands whole at the front of a text when the text begins with it, and neither what comes
before nor what comes after is a word character. -/
lemma standsWhole_iff {before : Option Char} {text : List Char} :
    standsWhole word before text = true ↔
      isWordSide before = false ∧ ∃ rest, text = word ++ rest ∧ isWordSide rest.head? = false := by
  have hlast := isWordSide_lastOf_of_allWord hne hword before
  unfold standsWhole
  constructor
  · intro h
    simp only [Bool.and_eq_true] at h
    obtain ⟨⟨hstart, hprefix⟩, hend⟩ := h
    obtain ⟨rest, rfl⟩ := List.isPrefixOf_iff_prefix.mp hprefix
    have hhead := isWordSide_head?_append hne hword rest
    rw [List.drop_left] at hend
    unfold atBoundary at hstart hend
    rw [hhead] at hstart
    rw [hlast] at hend
    exact ⟨by simpa using hstart, rest, rfl, by simpa using hend⟩
  · rintro ⟨hbefore, rest, rfl, hrest⟩
    have hhead := isWordSide_head?_append hne hword rest
    unfold atBoundary
    rw [List.drop_left, hbefore, hhead, hlast, hrest,
      List.isPrefixOf_iff_prefix.mpr (List.prefix_append word rest)]
    rfl

omit hword in
lemma not_hasWord_nil (before : Option Char) : ¬HasWord word before [] := by
  rintro ⟨left, right, h, -, -⟩
  have hnil : word = [] := by
    have hparts := List.append_eq_nil_iff.mp h.symm
    exact (List.append_eq_nil_iff.mp hparts.2).1
  exact hne hnil

/-- A word stands whole in a text at its front or behind its first character. -/
lemma hasWord_cons_iff {before : Option Char} {c : Char} {rest : List Char} :
    HasWord word before (c :: rest) ↔
      standsWhole word before (c :: rest) = true ∨ HasWord word (some c) rest := by
  rw [standsWhole_iff hne hword]
  constructor
  · rintro ⟨left, right, htext, hleft, hright⟩
    cases left with
    | nil => exact Or.inl ⟨hleft, right, htext, hright⟩
    | cons d left =>
      cases htext
      rw [lastOf_cons] at hleft
      exact Or.inr ⟨left, right, rfl, hleft, hright⟩
  · rintro (⟨hbefore, right, htext, hright⟩ | ⟨left, right, rfl, hleft, hright⟩)
    · exact ⟨[], right, htext, hbefore, hright⟩
    · exact ⟨c :: left, right, rfl, by rwa [lastOf_cons], hright⟩

/-- The search for a whole word finds it where it stands. -/
theorem occursWhole_iff {before : Option Char} {text : List Char} :
    occursWhole word before text = true ↔ HasWord word before text := by
  induction text generalizing before with
  | nil =>
    have hnot := not_hasWord_nil hne before
    constructor
    · intro h
      obtain ⟨-, rest, htext, -⟩ := (standsWhole_iff hne hword).mp h
      exact absurd (List.append_eq_nil_iff.mp htext.symm).1 hne
    · intro h
      exact absurd h hnot
  | cons c rest ih =>
    rw [occursWhole, Bool.or_eq_true, hasWord_cons_iff hne hword, ih]

/-! ### Cutting a text -/

/-- A place where a word stands whole lies on one side of a character that is no word
character. -/
theorem hasWord_append_cons_iff {before : Option Char} {a b : List Char} {c : Char}
    (hc : isWord c = false) :
    HasWord word before (a ++ c :: b) ↔ HasWord word before a ∨ HasWord word (some c) b := by
  have hmem : c ∉ word := by
    intro h
    rw [hword c h] at hc
    cases hc
  constructor
  · rintro ⟨left, right, htext, hleft, hright⟩
    rcases List.append_eq_append_iff.mp htext.symm with ⟨mid, rfl, hrest⟩ | ⟨mid, rfl, hrest⟩
    · -- the place begins before the character, so it ends before it
      rcases List.append_eq_append_iff.mp hrest with ⟨tail, rfl, rfl⟩ | ⟨tail, rfl, hcut⟩
      · exact Or.inl ⟨left, tail, by simp, hleft, isWordSide_head?_of_append hright⟩
      · cases tail with
        | nil => exact Or.inl ⟨left, [], by simp, hleft, rfl⟩
        | cons d tail =>
          cases hcut
          exact absurd (by simp) hmem
    · cases mid with
      | nil =>
        obtain ⟨d, word, rfl⟩ := List.exists_cons_of_ne_nil hne
        cases hrest
        exact absurd List.mem_cons_self hmem
      | cons d mid =>
        cases hrest
        rw [lastOf_append, lastOf_cons] at hleft
        exact Or.inr ⟨mid, right, rfl, hleft, hright⟩
  · rintro (⟨left, right, rfl, hleft, hright⟩ | ⟨left, right, rfl, hleft, hright⟩)
    · exact ⟨left, right ++ c :: b, by simp, hleft, isWordSide_head?_append_cons hright hc b⟩
    · refine ⟨a ++ c :: left, right, by simp, ?_, hright⟩
      rw [lastOf_append, lastOf_cons]
      exact hleft

omit hne hword in
/-- What comes before a text matters only as far as it is a word character. -/
lemma HasWord.of_before {before before' : Option Char} {text : List Char}
    (h : HasWord word before text) (hbefore : isWordSide before' = false) :
    HasWord word before' text := by
  obtain ⟨left, right, rfl, hleft, hright⟩ := h
  refine ⟨left, right, rfl, ?_, hright⟩
  cases left with
  | nil => exact hbefore
  | cons c left =>
    rw [lastOf_cons] at hleft ⊢
    exact hleft

omit hne hword in
/-- A word that stands in a text stands there behind another. -/
lemma HasWord.append_left {before : Option Char} {a b : List Char}
    (h : HasWord word (lastOf before a) b) : HasWord word before (a ++ b) := by
  obtain ⟨left, right, rfl, hleft, hright⟩ := h
  exact ⟨a ++ left, right, by simp, by rwa [lastOf_append], hright⟩

/-- A word that stands whole in a text does so when more text follows, unless the two texts grow
together. -/
lemma HasWord.append_right {before : Option Char} {a b : List Char} (h : HasWord word before a)
    (hapart : Apart (lastOf before a) b) : HasWord word before (a ++ b) := by
  obtain ⟨left, right, rfl, hleft, hright⟩ := h
  refine ⟨left, right ++ b, by simp, hleft, ?_⟩
  cases right with
  | cons c right => exact hright
  | nil =>
    rcases hapart with hlast | hhead
    · -- the text ends with the word, hence with a word character
      rw [List.append_nil, lastOf_append, isWordSide_lastOf_of_allWord hne hword] at hlast
      cases hlast
    · exact hhead

/-- Characters in front of a text that are no word characters can be taken away. -/
lemma HasWord.of_append_left {before : Option Char} {a b : List Char}
    (h : HasWord word before (a ++ b)) (ha : ∀ c ∈ a, isWord c = false) :
    HasWord word (lastOf before a) b := by
  induction a generalizing before with
  | nil => exact h
  | cons c a ih =>
    have hc : isWord c = false := ha c List.mem_cons_self
    have hcut : HasWord word before ([] ++ c :: (a ++ b)) := h
    rw [lastOf_cons]
    refine ih ?_ fun d hd => ha d (List.mem_cons_of_mem c hd)
    exact ((hasWord_append_cons_iff hne hword hc).mp hcut).resolve_left
      (not_hasWord_nil hne before)

/-- Characters behind a text that are no word characters can be taken away. -/
lemma HasWord.of_append_right {before : Option Char} {a b : List Char}
    (h : HasWord word before (a ++ b)) (hb : ∀ c ∈ b, isWord c = false) :
    HasWord word before a := by
  cases b with
  | nil => rwa [List.append_nil] at h
  | cons c b =>
    have hc : isWord c = false := hb c List.mem_cons_self
    rcases (hasWord_append_cons_iff hne hword hc).mp h with h | h
    · exact h
    · -- nothing in the rest is a word character
      obtain ⟨left, right, rfl, -, -⟩ := h
      obtain ⟨d, tail, rfl⟩ := List.exists_cons_of_ne_nil hne
      have hd : isWord d = true := hword d List.mem_cons_self
      rw [hb d (by simp)] at hd
      cases hd

/-- A text in which a word stands holds a word character. -/
lemma HasWord.exists_isWord {before : Option Char} {text : List Char}
    (h : HasWord word before text) : ∃ c ∈ text, isWord c = true := by
  obtain ⟨left, right, rfl, -, -⟩ := h
  obtain ⟨c, tail, rfl⟩ := List.exists_cons_of_ne_nil hne
  exact ⟨c, by simp, hword c List.mem_cons_self⟩

/-- A text with a word in it is not blank. -/
lemma HasWord.not_allBlank {before : Option Char} {text : List Char}
    (h : HasWord word before text) : allBlank text = false := by
  obtain ⟨c, hc, hcword⟩ := h.exists_isWord hne hword
  have hblank := isBlank_eq_false_of_isWord hcword
  refine Bool.eq_false_iff.mpr fun hall => ?_
  rw [List.all_eq_true.mp hall c hc] at hblank
  cases hblank

omit hne hword in
/-- A word that stands whole in a text that consists of word characters is that text. -/
lemma HasWord.eq_of_allWord {before : Option Char} {text : List Char}
    (h : HasWord word before text) (htext : AllWord text) : text = word := by
  obtain ⟨left, right, rfl, hleft, hright⟩ := h
  have hleft_nil : left = [] := by
    by_contra hleft_ne
    have hleft_word : AllWord left := fun c hc => htext c (by simp [hc])
    rw [isWordSide_lastOf_of_allWord hleft_ne hleft_word] at hleft
    cases hleft
  have hright_nil : right = [] := by
    cases right with
    | nil => rfl
    | cons c right =>
      have hc : isWord c = true := htext c (by simp)
      have hc' : isWord c = false := hright
      rw [hc] at hc'
      cases hc'
  rw [hleft_nil, hright_nil, List.nil_append, List.append_nil]

end Word

/-! ### Lines -/

lemma joinLines_cons_cons (first second : List Char) (rest : List (List Char)) :
    joinLines (first :: second :: rest) = first ++ '\n' :: joinLines (second :: rest) :=
  intercalate_cons_cons '\n' first second rest

/-- A newline ends a line. -/
lemma lines_newline (text : List Char) : lines ('\n' :: text) = [] :: lines text :=
  splitOn_mark_cons '\n' text

/-- The lines of a text make up the text. -/
theorem joinLines_lines (text : List Char) : joinLines (lines text) = text :=
  intercalate_splitOn '\n' text

/-- The first line of a text in front of a newline is cut off there. -/
lemma lines_append_newline (a b : List Char) : lines (a ++ '\n' :: b) = lines a ++ lines b :=
  splitOn_append_mark '\n' a b

/-- The lines of texts that are put together are the lines of all of them. -/
theorem lines_joinLines {texts : List (List Char)} (hne : texts ≠ []) :
    lines (joinLines texts) = texts.flatMap lines :=
  splitOn_intercalate '\n' hne

/-- A text without a newline is one line. -/
lemma lines_of_unbroken {text : List Char} (h : '\n' ∉ text) : lines text = [text] :=
  splitOn_of_not_mem h

/-- Texts put together line by line, as strings. -/
lemma toList_intercalate_newline (texts : List String) :
    ("\n".intercalate texts).toList = joinLines (texts.map String.toList) := by
  rw [String.toList_intercalate]
  rfl

section WordsInLines

variable {word : List Char} (hne : word ≠ []) (hword : AllWord word)

include hne hword

/-- A word stands whole in texts that are put together exactly when it does in one of them. -/
theorem hasWord_joinLines_iff {texts : List (List Char)} :
    HasWord word none (joinLines texts) ↔ ∃ text ∈ texts, HasWord word none text := by
  have hnewline : isWord '\n' = false := by decide
  have hbefore : ∀ text, HasWord word (some '\n') text ↔ HasWord word none text := by
    intro text
    exact ⟨fun h => h.of_before rfl, fun h => h.of_before hnewline⟩
  induction texts with
  | nil =>
    have hnot := not_hasWord_nil hne none
    constructor
    · intro h
      exact absurd h hnot
    · rintro ⟨text, htext, -⟩
      cases htext
  | cons first rest ih =>
    cases rest with
    | nil => simp [joinLines, List.intercalate]
    | cons second rest =>
      rw [joinLines_cons_cons, hasWord_append_cons_iff hne hword hnewline, hbefore,
        List.exists_mem_cons_iff]
      exact or_congr_right ih

/-- A word stands whole in a text exactly when it does in one of its lines. -/
lemma hasWord_iff_exists_line {text : List Char} :
    HasWord word none text ↔ ∃ line ∈ lines text, HasWord word none line := by
  conv_lhs => rw [← joinLines_lines text]
  exact hasWord_joinLines_iff hne hword

/-- A word stays when characters that are no word characters are taken from both ends. -/
lemma HasWord.trimBoth {p : Char → Bool} (hp : ∀ c, p c = true → isWord c = false)
    {text : List Char} (h : HasWord word none text) : HasWord word none (trimBoth p text) := by
  obtain ⟨lead, trail, hlead, htrail, htext, -, -⟩ := exists_trimBoth_eq p text
  rw [htext] at h
  have hcore := h.of_append_left hne hword fun c hc => hp c (hlead c hc)
  exact (hcore.of_before rfl).of_append_right hne hword fun c hc => hp c (htrail c hc)

/-- Empty lines around a text hold no word. -/
lemma HasWord.trimNewlines {text : List Char} (h : HasWord word none text) :
    HasWord word none (trimNewlines text) := by
  refine h.trimBoth hne hword fun c hc => ?_
  rw [beq_iff_eq] at hc
  rw [hc]
  decide

end WordsInLines

/-! ### Indentation -/

/-- The common start of two texts is the start of both. -/
lemma commonStart_prefix (a b : List Char) : commonStart a b <+: a ∧ commonStart a b <+: b := by
  fun_induction commonStart a b with
  | case1 as bs a ih => exact ⟨(List.cons_prefix_cons.mpr ⟨rfl, ih.1⟩),
      (List.cons_prefix_cons.mpr ⟨rfl, ih.2⟩)⟩
  | case2 => exact ⟨List.nil_prefix, List.nil_prefix⟩
  | case3 => exact ⟨List.nil_prefix, List.nil_prefix⟩

/-- The shared indentation begins the indentation of every line. -/
lemma sharedIndent_prefix {texts : List (List Char)} {text : List Char} (h : text ∈ texts) :
    sharedIndent texts <+: text.takeWhile isIndent := by
  have hfold : ∀ (rest : List (List Char)) (margin : List Char),
      rest.foldl (fun margin other => commonStart margin (other.takeWhile isIndent)) margin <+:
          margin ∧
        ∀ other ∈ rest,
          rest.foldl (fun margin other => commonStart margin (other.takeWhile isIndent)) margin <+:
            other.takeWhile isIndent := by
    intro rest
    induction rest with
    | nil => simp
    | cons first rest ih =>
      intro margin
      obtain ⟨hmargin, hothers⟩ := ih (commonStart margin (first.takeWhile isIndent))
      obtain ⟨hleft, hright⟩ := commonStart_prefix margin (first.takeWhile isIndent)
      refine ⟨hmargin.trans hleft, fun other hother => ?_⟩
      rcases List.mem_cons.mp hother with rfl | hother
      · exact hmargin.trans hright
      · exact hothers other hother
  cases texts with
  | nil => cases h
  | cons first rest =>
    obtain ⟨hfirst, hothers⟩ := hfold rest (first.takeWhile isIndent)
    rcases List.mem_cons.mp h with rfl | h
    · exact hfirst
    · exact hothers text h

/-- Indentation is no part of a word. -/
lemma isWord_eq_false_of_isIndent {c : Char} (h : isIndent c = true) : isWord c = false := by
  unfold isIndent at h
  rw [Bool.or_eq_true, beq_iff_eq, beq_iff_eq] at h
  rcases h with rfl | rfl <;> decide

/-- A word stays when the shared indentation is taken away. -/
theorem HasWord.dedent {word : List Char} (hne : word ≠ []) (hword : AllWord word)
    {text : List Char} (h : HasWord word none text) : HasWord word none (dedent text) := by
  obtain ⟨line, hline, hstands⟩ := (hasWord_iff_exists_line hne hword).mp h
  obtain ⟨c, hc, hcword⟩ := hstands.exists_isWord hne hword
  have hnot : line.all isIndent = false := by
    refine Bool.eq_false_iff.mpr fun hall => ?_
    have hindent := isWord_eq_false_of_isIndent (List.all_eq_true.mp hall c hc)
    rw [hcword] at hindent
    cases hindent
  unfold Text.dedent
  dsimp only
  generalize hcleared : (lines text).map (fun line => if line.all isIndent then [] else line) =
    cleared
  have hmem : line ∈ cleared := by
    rw [← hcleared]
    exact List.mem_map.mpr ⟨line, hline, by rw [hnot]; rfl⟩
  have hkept : line ∈ cleared.filter fun line => !line.isEmpty := by
    refine List.mem_filter.mpr ⟨hmem, ?_⟩
    cases line with
    | nil => cases hc
    | cons d line => rfl
  -- what is dropped from the line is a part of its indentation
  obtain ⟨indent, hindent⟩ := sharedIndent_prefix hkept
  generalize sharedIndent (cleared.filter fun line => !line.isEmpty) = margin at hindent ⊢
  have hsplit : line = margin ++ (indent ++ line.dropWhile isIndent) := by
    rw [← List.append_assoc, hindent, List.takeWhile_append_dropWhile]
  have hmargin : ∀ d ∈ margin, isWord d = false := by
    intro d hd
    have hd' : d ∈ line.takeWhile isIndent := by
      rw [← hindent]
      exact List.mem_append_left _ hd
    exact isWord_eq_false_of_isIndent
      (List.all_eq_true.mp (List.all_takeWhile (l := line) (p := isIndent)) d hd')
  refine (hasWord_joinLines_iff hne hword).mpr
    ⟨line.drop margin.length, List.mem_map.mpr ⟨line, hmem, rfl⟩, ?_⟩
  rw [hsplit] at hstands
  have hrest : HasWord word none (indent ++ line.dropWhile isIndent) :=
    (hstands.of_append_left hne hword hmargin).of_before rfl
  rwa [hsplit, List.drop_left]

end ShaderLoom.Text
