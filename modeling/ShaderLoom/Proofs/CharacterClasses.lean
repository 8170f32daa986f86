import Mathlib.Data.List.Basic
import ShaderLoom.Identifier
import ShaderLoom.Text.Blank
import ShaderLoom.Text.Word

/-!
# Words and blanks

No character is both a word character and a blank, so a text falls apart into words, blanks and
single other characters in one way only.
-/

namespace ShaderLoom.Text

/-! ### The two classes -/

/-- Beyond ASCII, no range of letters and numbers meets a range of blanks. -/
lemma blankRanges_apart_alphanumericRanges :
    ∀ blank ∈ blankRanges, ∀ range ∈ alphanumericRanges,
      range.2 < blank.1 ∨ blank.2 < range.1 := by
  decide +kernel

/-- An ASCII blank comes before all digits and letters. -/
lemma isBlank_ascii_le {n : Nat} (hn : n < 0x80) (h : inRanges blankRanges n = true) :
    n ≤ 0x20 := by
  simp only [inRanges, blankRanges, List.any_cons, List.any_nil, Bool.or_false, Bool.or_eq_true,
    Bool.and_eq_true, decide_eq_true_eq] at h
  omega

/-- The codes of the ASCII letters and digits. -/
lemma isAlphanum_iff {c : Char} : c.isAlphanum = true ↔
    ((0x41 ≤ c.toNat ∧ c.toNat ≤ 0x5a) ∨ (0x61 ≤ c.toNat ∧ c.toNat ≤ 0x7a)) ∨
      (0x30 ≤ c.toNat ∧ c.toNat ≤ 0x39) := by
  delta Char.isAlphanum Char.isAlpha Char.isUpper Char.isLower Char.isDigit
  simp only [Bool.or_eq_true, Bool.and_eq_true, decide_eq_true_eq, ge_iff_le,
    UInt32.le_iff_toNat_le]
  rfl

/-- Letters and digits are word characters. -/
lemma isWord_of_isAlphanum {c : Char} (h : c.isAlphanum = true) : isWord c = true := by
  have hascii : c.toNat < 0x80 := by
    have hcodes := isAlphanum_iff.mp h
    omega
  unfold isWord
  rw [if_pos hascii, h]
  rfl

/-- Blanks and control characters are no letters, digits or underscores. -/
lemma not_isAlphanum_of_le {c : Char} (h : c.toNat ≤ 0x20) :
    (c.isAlphanum || c == '_') = false := by
  have hne : c ≠ '_' := by
    rintro rfl
    exact absurd h (by decide)
  rw [Bool.or_eq_false_iff, ← Bool.not_eq_true, isAlphanum_iff]
  exact ⟨by omega, beq_eq_false_iff_ne.mpr hne⟩

/-- A blank is no word character. -/
theorem isWord_eq_false_of_isBlank {c : Char} (h : isBlank c = true) : isWord c = false := by
  unfold isBlank at h
  unfold isWord
  split
  · next hascii => exact not_isAlphanum_of_le (isBlank_ascii_le hascii h)
  · by_contra hword
    rw [Bool.not_eq_false] at hword
    obtain ⟨blank, hblank, hc⟩ := inRanges_iff.mp h
    obtain ⟨range, hrange, hc'⟩ := inRanges_iff.mp hword
    have := blankRanges_apart_alphanumericRanges blank hblank range hrange
    omega

/-- A word character is no blank. -/
lemma isBlank_eq_false_of_isWord {c : Char} (h : isWord c = true) : isBlank c = false := by
  by_contra hblank
  rw [Bool.not_eq_false] at hblank
  rw [isWord_eq_false_of_isBlank hblank] at h
  cases h

/-- A text of word characters only. -/
def AllWord (text : List Char) : Prop := ∀ c ∈ text, isWord c = true

/-- A text of blanks only. -/
def AllBlank (text : List Char) : Prop := ∀ c ∈ text, isBlank c = true

/-- A text that does not begin with a character of the class `p`. -/
def NotStarting (p : Char → Bool) (text : List Char) : Prop := ∀ c ∈ text.head?, p c = false

lemma notStarting_nil {p : Char → Bool} : NotStarting p [] := by
  intro c hc
  cases hc

@[simp] lemma notStarting_cons {p : Char → Bool} {c : Char} {rest : List Char} :
    NotStarting p (c :: rest) ↔ p c = false := by
  simp [NotStarting]

lemma allWord_nil : AllWord [] := fun _ h => absurd h List.not_mem_nil

/-- A word is made of its first character and the rest. -/
lemma allWord_cons {c : Char} {rest : List Char} :
    AllWord (c :: rest) ↔ isWord c = true ∧ AllWord rest := by
  simp [AllWord]

/-- A blank text is made of its first character and the rest. -/
lemma allBlank_cons {c : Char} {rest : List Char} :
    AllBlank (c :: rest) ↔ isBlank c = true ∧ AllBlank rest := by
  simp [AllBlank]

/-- Two texts are a word together when each of them is. -/
lemma allWord_append {a b : List Char} : AllWord (a ++ b) ↔ AllWord a ∧ AllWord b := by
  simp [AllWord, or_imp, forall_and]

/-- Two ways to say that a text does not begin with a word character. -/
lemma notStarting_isWord_iff {text : List Char} :
    NotStarting isWord text ↔ isWordSide text.head? = false := by
  cases text <;> simp [isWordSide, notStarting_nil]

/-! ### Runs at the front of a text -/

section Runs

variable {p : Char → Bool} {run rest : List Char}

/-- The characters of a class at the front of a text, once it is known where they end. -/
lemma takeWhile_run (hrun : ∀ c ∈ run, p c = true) (hrest : NotStarting p rest) :
    (run ++ rest).takeWhile p = run := by
  rw [List.takeWhile_append_of_pos hrun]
  cases rest with
  | nil => simp
  | cons c rest => simp [notStarting_cons.mp hrest]

/-- What is left behind a run of characters. -/
lemma dropWhile_run (hrun : ∀ c ∈ run, p c = true) (hrest : NotStarting p rest) :
    (run ++ rest).dropWhile p = rest := by
  rw [List.dropWhile_append_of_pos hrun]
  cases rest with
  | nil => rfl
  | cons c rest => simp [notStarting_cons.mp hrest]

/-- A text is a run of a class, and a rest that does not begin with the class. -/
lemma exists_run (p : Char → Bool) (text : List Char) :
    ∃ run rest, text = run ++ rest ∧ (∀ c ∈ run, p c = true) ∧ NotStarting p rest := by
  refine ⟨text.takeWhile p, text.dropWhile p, List.takeWhile_append_dropWhile.symm, ?_, ?_⟩
  · intro c hc
    have := List.all_eq_true.mp (List.all_takeWhile (l := text) (p := p)) c hc
    exact this
  · intro c hc
    have := List.head?_dropWhile_not p text
    rw [Option.mem_def.mp hc] at this
    simpa using this

/-- The run of a class at the front of a text and what follows it are determined by the text. -/
lemma run_unique {run' rest' : List Char} (h : run ++ rest = run' ++ rest')
    (hrun : ∀ c ∈ run, p c = true) (hrest : NotStarting p rest)
    (hrun' : ∀ c ∈ run', p c = true) (hrest' : NotStarting p rest') :
    run = run' ∧ rest = rest' := by
  constructor
  · rw [← takeWhile_run hrun hrest, h, takeWhile_run hrun' hrest']
  · rw [← dropWhile_run hrun hrest, h, dropWhile_run hrun' hrest']

/-- A text between characters of a class at its two ends. -/
lemma exists_trimBoth_eq (p : Char → Bool) (text : List Char) :
    ∃ lead trail, (∀ c ∈ lead, p c = true) ∧ (∀ c ∈ trail, p c = true) ∧
      text = lead ++ (trimBoth p text ++ trail) ∧ NotStarting p (trimBoth p text ++ trail) ∧
      NotStarting p (trimBoth p text).reverse := by
  obtain ⟨lead, rest, rfl, hlead, hrest⟩ := exists_run p text
  obtain ⟨trail, core, hreverse, htrail, hcore⟩ := exists_run p rest.reverse
  have htrim : trimBoth p (lead ++ rest) = core.reverse := by
    unfold trimBoth
    rw [dropWhile_run hlead hrest, hreverse, dropWhile_run htrail hcore]
  have hrest_eq : rest = core.reverse ++ trail.reverse := by
    rw [← List.reverse_append, ← hreverse, List.reverse_reverse]
  refine ⟨lead, trail.reverse, hlead, fun c hc => htrail c (List.mem_reverse.mp hc), ?_, ?_, ?_⟩
  · rw [htrim, ← hrest_eq]
  · rw [htrim, ← hrest_eq]
    exact hrest
  · rw [htrim, List.reverse_reverse]
    exact hcore

end Runs

/-- What is left of a text behind its nonempty start, counted from the second character. -/
lemma drop_length_sub_one {c : Char} {rest start after : List Char} (hne : start ≠ [])
    (h : c :: rest = start ++ after) : rest.drop (start.length - 1) = after := by
  obtain ⟨d, tail, rfl⟩ := List.exists_cons_of_ne_nil hne
  cases h
  simp

/-! ### What stands before a place -/

/-- A text that begins with a word has a word character at its front. -/
lemma isWordSide_head?_append {word : List Char} (hne : word ≠ []) (hword : AllWord word)
    (rest : List Char) : isWordSide (word ++ rest).head? = true := by
  obtain ⟨c, tail, rfl⟩ := List.exists_cons_of_ne_nil hne
  exact hword c List.mem_cons_self

@[simp] lemma lastOf_nil (before : Option Char) : lastOf before [] = before := by
  simp [lastOf]

/-- The last character of a text that has one does not depend on what comes before it. -/
@[simp] lemma lastOf_cons (before : Option Char) (c : Char) (rest : List Char) :
    lastOf before (c :: rest) = lastOf (some c) rest := by
  cases rest <;> simp [lastOf, List.getLast?_cons]

/-- The last character of two texts is found in the second, else in the first. -/
@[simp] lemma lastOf_append (before : Option Char) (a b : List Char) :
    lastOf before (a ++ b) = lastOf (lastOf before a) b := by
  induction a generalizing before with
  | nil => simp
  | cons c a ih => simp [ih]

/-- After blanks comes a place that is not beside a word character. -/
lemma isWordSide_lastOf_of_allBlank {before : Option Char} {blank : List Char} (hne : blank ≠ [])
    (hblank : AllBlank blank) : isWordSide (lastOf before blank) = false := by
  induction blank generalizing before with
  | nil => exact absurd rfl hne
  | cons c rest ih =>
    rw [allBlank_cons] at hblank
    rw [lastOf_cons]
    cases rest with
    | nil => simpa [isWordSide] using isWord_eq_false_of_isBlank hblank.1
    | cons d rest => exact ih (List.cons_ne_nil d rest) hblank.2

end ShaderLoom.Text

namespace ShaderLoom

/-! ### Cleaned names -/

/-- The characters that clean a name are word characters. -/
lemma isWord_cleanChar (c : Char) : Text.isWord (Identifier.cleanChar c) = true := by
  unfold Identifier.cleanChar
  split
  · next h => exact Text.isWord_of_isAlphanum h
  · decide

/-- A cleaned name is made of word characters. -/
lemma Identifier.allWord_clean (name : String) : Text.AllWord (Identifier.clean name).toList := by
  intro c hc
  unfold Identifier.clean at hc
  rw [String.toList_ofList] at hc
  obtain ⟨d, -, rfl⟩ := List.mem_map.mp hc
  exact isWord_cleanChar d

end ShaderLoom
