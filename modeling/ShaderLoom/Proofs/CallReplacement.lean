import ShaderLoom.Helper.Basic
import ShaderLoom.Helper.Rename
import ShaderLoom.Proofs.CharacterClasses
import ShaderLoom.Proofs.Outcomes

/-!
# Replacing calls

What renaming a helper does to shader code, when the old and the new name are words.  A call of a
name consists of the name, blanks and an opening parenthesis.  It can begin only where a word
begins, and it holds no bracket but its last character.  So renaming can be followed character by
character, and it leaves alone everything that helpers are found by: words that are not called,
blanks, commas, and the nesting of brackets.
-/

namespace ShaderLoom.Helper

open Text

/-- An old name and a new name, which are words. -/
structure Renaming where
  old : List Char
  new : List Char
  old_ne_nil : old ≠ []
  old_word : AllWord old
  new_ne_nil : new ≠ []
  new_word : AllWord new

/-! ### Replacement texts without escapes -/

/-- A replacement text without a backslash stands for itself. -/
lemma replacementParts_of_no_escape {text : List Char} (h : '\\' ∉ text) :
    replacementParts text = .ok (text.map fun c => .text [c]) := by
  induction text with
  | nil => rw [replacementParts.eq_def]; rfl
  | cons c rest ih =>
    rw [List.mem_cons, not_or] at h
    rw [replacementParts.eq_def]
    split
    · next heq => cases heq
    · next heq =>
      cases heq
      exact absurd rfl h.1
    · next heq =>
      cases heq
      rw [ih h.2]
      rfl

/-- A replacement that is text only is put in as it is. -/
lemma expand_map_text (text matched : List Char) :
    expand (text.map fun c => .text [c]) matched = text := by
  induction text with
  | nil => rfl
  | cons c rest ih =>
    show [c] ++ expand (rest.map fun c => .text [c]) matched = c :: rest
    rw [ih]
    rfl

/-- A backslash is no word character. -/
lemma not_mem_backslash_of_allWord {text : List Char} (h : AllWord text) : '\\' ∉ text := by
  intro hmem
  exact absurd (h '\\' hmem) (by decide)

namespace Renaming

variable (r : Renaming)

/-- The code that follows the character `before`, with every call of the old name turned into a
call of the new one. -/
def apply (before : Option Char) (text : List Char) : List Char :=
  replaceCalls r.old ((r.new ++ ['(']).map fun c => .text [c]) before text

/-- Renaming one helper succeeds when its names are words. -/
lemma renameOne_eq (code : List Char) :
    renameOne (String.ofList r.old) (String.ofList r.new) code = .ok (r.apply none code) := by
  have hescape : '\\' ∉ r.new ++ ['('] := by
    intro h
    rcases List.mem_append.mp h with h | h
    · exact not_mem_backslash_of_allWord r.new_word h
    · rw [List.mem_singleton] at h
      exact absurd h (by decide)
  unfold renameOne apply
  rw [String.toList_ofList, String.toList_ofList, replacementParts_of_no_escape hescape]

/-! ### Where calls stand -/

/-- A call stands at the front of a text exactly when the text begins with the old name as a whole
word, followed by blanks and an opening parenthesis. -/
lemma callAt?_eq_some_iff {before : Option Char} {text call : List Char} :
    callAt? r.old before text = some call ↔
      isWordSide before = false ∧ ∃ space rest, AllBlank space ∧
        text = r.old ++ (space ++ '(' :: rest) ∧ call = r.old ++ space ++ ['('] := by
  constructor
  · intro h
    unfold callAt? at h
    split at h
    · next hc =>
      rw [Bool.and_eq_true] at hc
      obtain ⟨tail, rfl⟩ := List.isPrefixOf_iff_prefix.mp hc.2
      dsimp only at h
      rw [List.drop_left] at h
      obtain ⟨space, rest, rfl, hspace, hrest⟩ := exists_run isBlank tail
      rw [dropWhile_run hspace hrest, takeWhile_run hspace hrest] at h
      split at h
      · next rest' =>
        cases h
        have hhead := isWordSide_head?_append r.old_ne_nil r.old_word (space ++ '(' :: rest')
        have hbefore : isWordSide before = false := by
          have := hc.1
          unfold atBoundary at this
          rw [hhead] at this
          simpa using this
        exact ⟨hbefore, space, rest', hspace, rfl, rfl⟩
      · cases h
    · cases h
  · rintro ⟨hbefore, space, rest, hspace, rfl, rfl⟩
    have hhead := isWordSide_head?_append r.old_ne_nil r.old_word (space ++ '(' :: rest)
    have hboundary : atBoundary before (r.old ++ (space ++ '(' :: rest)) = true := by
      unfold atBoundary
      rw [hbefore, hhead]
      rfl
    have hparen : NotStarting isBlank ('(' :: rest) := notStarting_cons.mpr (by decide)
    unfold callAt?
    rw [hboundary, List.isPrefixOf_iff_prefix.mpr (List.prefix_append _ _)]
    dsimp only
    rw [List.drop_left, dropWhile_run hspace hparen, takeWhile_run hspace hparen]
    rfl

/-- There is no call at the front of a text that follows the character `before`. -/
def NoCall (before : Option Char) (text : List Char) : Prop := callAt? r.old before text = none

/-- A text has no call at its front exactly when it does not begin with the characters of a
call. -/
lemma noCall_iff {before : Option Char} {text : List Char} :
    r.NoCall before text ↔ (isWordSide before = false → ∀ space rest, AllBlank space →
      text ≠ r.old ++ (space ++ '(' :: rest)) := by
  unfold NoCall
  constructor
  · intro h hbefore space rest hspace heq
    have hcall := r.callAt?_eq_some_iff.mpr ⟨hbefore, space, rest, hspace, heq, rfl⟩
    rw [h] at hcall
    cases hcall
  · intro h
    cases hcall : callAt? r.old before text with
    | none => rfl
    | some call =>
      obtain ⟨hbefore, space, rest, hspace, heq, -⟩ := r.callAt?_eq_some_iff.mp hcall
      exact absurd heq (h hbefore space rest hspace)

/-- Inside a word no call begins. -/
lemma noCall_of_word_before {before : Option Char} (h : isWordSide before = true)
    (text : List Char) : r.NoCall before text := by
  rw [noCall_iff]
  intro hbefore
  rw [h] at hbefore
  cases hbefore

/-- A call begins with a word character. -/
lemma noCall_of_notStarting {before : Option Char} {text : List Char}
    (h : NotStarting isWord text) : r.NoCall before text := by
  rw [noCall_iff]
  rintro - space rest - rfl
  rw [notStarting_isWord_iff, isWordSide_head?_append r.old_ne_nil r.old_word] at h
  cases h

/-- A text without a call at its front has none when it is cut off somewhere. -/
lemma noCall_of_append {before : Option Char} {text rest : List Char}
    (h : r.NoCall before (text ++ rest)) : r.NoCall before text := by
  rw [noCall_iff] at h ⊢
  rintro hbefore space tail hspace rfl
  exact h hbefore space (tail ++ rest) hspace (by simp)

/-! ### Renaming step by step -/

@[simp] lemma apply_nil (before : Option Char) : r.apply before [] = [] := by
  unfold apply
  rw [replaceCalls.eq_def]

/-- A call is replaced as a whole. -/
lemma apply_call {before : Option Char} (hbefore : isWordSide before = false) {space : List Char}
    (hspace : AllBlank space) (rest : List Char) :
    r.apply before (r.old ++ (space ++ '(' :: rest)) =
      r.new ++ '(' :: r.apply (some '(') rest := by
  have hcall := r.callAt?_eq_some_iff.mpr ⟨hbefore, space, rest, hspace, rfl, rfl⟩
  obtain ⟨c, old, hold⟩ := List.exists_cons_of_ne_nil r.old_ne_nil
  unfold apply
  rw [replaceCalls.eq_def]
  split
  · next heq =>
    rw [hold] at heq
    cases heq
  · next c' tail heq =>
    rw [← heq, hcall]
    dsimp only
    have hdrop : tail.drop ((r.old ++ space ++ ['(']).length - 1) = rest :=
      drop_length_sub_one (by simp) (by rw [← heq]; simp)
    have hlast : lastOf before (r.old ++ space ++ ['(']) = some '(' := by simp
    rw [hdrop, hlast, expand_map_text, List.append_assoc]
    rfl

/-- Where no call begins, one character is kept. -/
lemma apply_cons {before : Option Char} {c : Char} {rest : List Char}
    (h : r.NoCall before (c :: rest)) :
    r.apply before (c :: rest) = c :: r.apply (some c) rest := by
  unfold apply
  rw [replaceCalls.eq_def]
  dsimp only
  rw [show callAt? r.old before (c :: rest) = none from h]

/-- Induction along the steps of renaming: over calls, and over single characters at which no call
begins. -/
theorem step_induction {motive : Option Char → List Char → Prop}
    (nil : ∀ before, motive before [])
    (call : ∀ before space rest, isWordSide before = false → AllBlank space →
      motive (some '(') rest → motive before (r.old ++ (space ++ '(' :: rest)))
    (cons : ∀ before c rest, r.NoCall before (c :: rest) → motive (some c) rest →
      motive before (c :: rest))
    (before : Option Char) (text : List Char) : motive before text := by
  induction h : text.length using Nat.strongRecOn generalizing before text with
  | _ n ih =>
    cases hcall : callAt? r.old before text with
    | some found =>
      obtain ⟨hbefore, space, rest, hspace, rfl, -⟩ := r.callAt?_eq_some_iff.mp hcall
      refine call before space rest hbefore hspace (ih rest.length ?_ (some '(') rest rfl)
      simp only [List.length_append, List.length_cons] at h
      omega
    | none =>
      cases text with
      | nil => exact nil before
      | cons c rest =>
        refine cons before c rest hcall (ih rest.length ?_ (some c) rest rfl)
        rw [List.length_cons] at h
        omega

/-! ### What renaming leaves alone -/

/-- A character that is no word character stays. -/
lemma apply_cons_of_not_word {before : Option Char} {c : Char} (hc : isWord c = false)
    (rest : List Char) : r.apply before (c :: rest) = c :: r.apply (some c) rest :=
  r.apply_cons (r.noCall_of_notStarting (notStarting_cons.mpr hc))

/-- Blanks stay. -/
lemma apply_blank_append (before : Option Char) {blank : List Char} (hblank : AllBlank blank)
    (rest : List Char) :
    r.apply before (blank ++ rest) = blank ++ r.apply (lastOf before blank) rest := by
  induction blank generalizing before with
  | nil => simp
  | cons c blank ih =>
    rw [allBlank_cons] at hblank
    rw [List.cons_append, r.apply_cons_of_not_word (isWord_eq_false_of_isBlank hblank.1),
      ih (some c) hblank.2, lastOf_cons]
    rfl

/-- The rest of a word stays. -/
lemma apply_word_append_of_word_before {before : Option Char} (hbefore : isWordSide before = true)
    {word : List Char} (hword : AllWord word) (rest : List Char) :
    r.apply before (word ++ rest) = word ++ r.apply (lastOf before word) rest := by
  induction word generalizing before with
  | nil => simp
  | cons c word ih =>
    rw [allWord_cons] at hword
    have hc : isWordSide (some c) = true := hword.1
    rw [List.cons_append, r.apply_cons (r.noCall_of_word_before hbefore _), ih hc hword.2,
      lastOf_cons]
    rfl

/-- A word that is not called stays. -/
lemma apply_word_append {before : Option Char} {word : List Char} (hword : AllWord word)
    {rest : List Char} (h : r.NoCall before (word ++ rest)) :
    r.apply before (word ++ rest) = word ++ r.apply (lastOf before word) rest := by
  cases word with
  | nil => simp
  | cons c word =>
    rw [allWord_cons] at hword
    have hc : isWordSide (some c) = true := hword.1
    rw [List.cons_append] at h ⊢
    rw [r.apply_cons h, r.apply_word_append_of_word_before hc hword.2, lastOf_cons]
    rfl

/-- Renaming does not change whether a text begins with a character of a class, if all word
characters are in the class or none is. -/
lemma notStarting_apply_iff {p : Char → Bool}
    (hp : (∀ c, isWord c = true → p c = true) ∨ ∀ c, isWord c = true → p c = false)
    (before : Option Char) (text : List Char) :
    NotStarting p (r.apply before text) ↔ NotStarting p text := by
  have hword : ∀ word rest rest' : List Char, ∀ other : List Char, word ≠ [] → AllWord word →
      other ≠ [] → AllWord other →
      (NotStarting p (word ++ rest) ↔ NotStarting p (other ++ rest')) := by
    intro word rest rest' other hne hw hne' hw'
    obtain ⟨c, word, rfl⟩ := List.exists_cons_of_ne_nil hne
    obtain ⟨d, other, rfl⟩ := List.exists_cons_of_ne_nil hne'
    have hc := hw c List.mem_cons_self
    have hd := hw' d List.mem_cons_self
    rw [List.cons_append, List.cons_append, notStarting_cons, notStarting_cons]
    rcases hp with hp | hp
    · simp [hp c hc, hp d hd]
    · simp [hp c hc, hp d hd]
  induction before, text using r.step_induction with
  | nil before => simp
  | call before space rest hbefore hspace _ =>
    rw [r.apply_call hbefore hspace]
    exact hword _ _ _ _ r.new_ne_nil r.new_word r.old_ne_nil r.old_word
  | cons before c rest h _ =>
    rw [r.apply_cons h, notStarting_cons, notStarting_cons]

/-- Renaming does not change whether a text begins with a word character. -/
lemma notStarting_isWord_apply (before : Option Char) (text : List Char) :
    NotStarting isWord (r.apply before text) ↔ NotStarting isWord text :=
  r.notStarting_apply_iff (Or.inl fun _ h => h) before text

lemma notStarting_isBlank_apply (before : Option Char) (text : List Char) :
    NotStarting isBlank (r.apply before text) ↔ NotStarting isBlank text :=
  r.notStarting_apply_iff (Or.inr fun _ h => isBlank_eq_false_of_isWord h) before text

/-- Renaming does not change whether a word in front of the text goes on in it. -/
lemma isWordSide_head?_apply (before : Option Char) (text : List Char) :
    isWordSide (r.apply before text).head? = isWordSide text.head? := by
  have h := r.notStarting_isWord_apply before text
  rw [notStarting_isWord_iff, notStarting_isWord_iff] at h
  cases hw : isWordSide text.head? with
  | false => exact h.mpr hw
  | true =>
    cases hw' : isWordSide (r.apply before text).head? with
    | true => rfl
    | false => exact absurd (h.mp hw') (by simp [hw])

/-- The blanks at the front of a text are those at the front of the renamed text. -/
lemma takeWhile_isBlank_apply (before : Option Char) (text : List Char) :
    (r.apply before text).takeWhile isBlank = text.takeWhile isBlank := by
  obtain ⟨blank, rest, rfl, hblank, hrest⟩ := exists_run isBlank text
  rw [r.apply_blank_append before hblank, takeWhile_run hblank hrest,
    takeWhile_run hblank ((r.notStarting_isBlank_apply _ _).mpr hrest)]

/-- Blanks at the front are passed over before or after renaming. -/
lemma dropWhile_isBlank_apply (before : Option Char) (text : List Char) :
    (r.apply before text).dropWhile isBlank =
      r.apply (lastOf before (text.takeWhile isBlank)) (text.dropWhile isBlank) := by
  obtain ⟨blank, rest, rfl, hblank, hrest⟩ := exists_run isBlank text
  rw [r.apply_blank_append before hblank, takeWhile_run hblank hrest, dropWhile_run hblank hrest,
    dropWhile_run hblank ((r.notStarting_isBlank_apply _ _).mpr hrest)]

/-! ### Renaming the parts of a text -/

/-- A character that can stand in a call. -/
def inCall (c : Char) : Bool := isWord c || isBlank c || c == '('

/-- A call is made of a word, blanks and a parenthesis. -/
lemma inCall_of_mem {space : List Char} (hspace : AllBlank space) {c : Char}
    (hc : c ∈ r.old ++ space ++ ['(']) : inCall c = true := by
  rw [List.mem_append, List.mem_append, List.mem_singleton] at hc
  unfold inCall
  rcases hc with (hc | hc) | rfl
  · rw [r.old_word c hc]
    rfl
  · rw [hspace c hc]
    simp
  · simp

/-- A text cut off at a place that no call spans has a call at its front exactly when the whole
text has. -/
lemma noCall_append {before : Option Char} {text rest : List Char} (h : r.NoCall before text)
    (hrest : ∀ space tail, AllBlank space → ∀ start, start ≠ [] →
      r.old ++ space ++ ['('] = text ++ start → rest ≠ start ++ tail) :
    r.NoCall before (text ++ rest) := by
  rw [noCall_iff] at h ⊢
  intro hbefore space tail hspace heq
  have heq' : text ++ rest = (r.old ++ space ++ ['(']) ++ tail := by rw [heq]; simp
  rcases List.append_eq_append_iff.mp heq' with ⟨start, hcall, hrest'⟩ | ⟨start, htext, -⟩
  · by_cases hne : start = []
    · subst hne
      rw [List.append_nil] at hcall
      exact h hbefore space [] hspace (by rw [← hcall]; simp)
    · exact hrest space tail hspace start hne hcall hrest'
  · exact h hbefore space start hspace (by rw [htext]; simp)

/-- A text may be renamed in two parts when the second begins with a character that cannot stand in
a call. -/
lemma apply_append_cons (before : Option Char) (text : List Char) {c : Char}
    (hc : inCall c = false) (rest : List Char) :
    r.apply before (text ++ c :: rest) = r.apply before text ++ c :: r.apply (some c) rest := by
  have hword : isWord c = false := by
    unfold inCall at hc
    simp only [Bool.or_eq_false_iff] at hc
    exact hc.1.1
  induction before, text using r.step_induction with
  | nil before =>
    rw [List.nil_append, r.apply_cons_of_not_word hword, apply_nil, List.nil_append]
  | call before space tail hbefore hspace ih =>
    have heq : r.old ++ (space ++ '(' :: tail) ++ c :: rest =
        r.old ++ (space ++ '(' :: (tail ++ c :: rest)) := by simp
    rw [heq, r.apply_call hbefore hspace, r.apply_call hbefore hspace, ih]
    simp
  | cons before d tail h ih =>
    have hno : r.NoCall before (d :: tail ++ c :: rest) := by
      refine r.noCall_append h fun space rest' hspace start hne hcall heq => ?_
      -- the character would be one of the call
      obtain ⟨first, start, rfl⟩ := List.exists_cons_of_ne_nil hne
      cases heq
      have hmem : c ∈ r.old ++ space ++ ['('] := by rw [hcall]; simp
      rw [r.inCall_of_mem hspace hmem] at hc
      cases hc
    rw [List.cons_append] at hno ⊢
    rw [r.apply_cons hno, r.apply_cons h, ih]
    rfl

/-- Blanks at the end of a text stay. -/
lemma apply_append_blank (before : Option Char) (text : List Char) {blank : List Char}
    (hblank : AllBlank blank) :
    r.apply before (text ++ blank) = r.apply before text ++ blank := by
  induction before, text using r.step_induction with
  | nil before =>
    have h := r.apply_blank_append before hblank []
    rw [List.append_nil, apply_nil, List.append_nil] at h
    rw [List.nil_append, h, apply_nil, List.nil_append]
  | call before space tail hbefore hspace ih =>
    have heq : r.old ++ (space ++ '(' :: tail) ++ blank =
        r.old ++ (space ++ '(' :: (tail ++ blank)) := by simp
    rw [heq, r.apply_call hbefore hspace, r.apply_call hbefore hspace, ih]
    simp
  | cons before d tail h ih =>
    have hno : r.NoCall before (d :: tail ++ blank) := by
      refine r.noCall_append h fun space rest' hspace start hne hcall heq => ?_
      -- the last character of the call would be a blank
      have hlast : start.getLast? = some '(' := by
        have := congrArg List.getLast? hcall
        rw [List.getLast?_append_of_ne_nil _ hne] at this
        simpa using this.symm
      have hmem : '(' ∈ blank := by
        rw [heq]
        exact List.mem_append_left _ (List.mem_of_getLast? hlast)
      exact absurd (hblank '(' hmem) (by decide)
    rw [List.cons_append] at hno ⊢
    rw [r.apply_cons hno, r.apply_cons h, ih]
    rfl

end Renaming

/-! ### Brackets -/

section Brackets

variable {opening closing : Char}

/-- The text up to the closing bracket ends with it, and makes up the text with what follows. -/
lemma eq_append_of_cutAtClosing {depth : Nat} {text inside outside : List Char}
    (h : cutAtClosing opening closing (depth + 1) text = some (inside, outside)) :
    text = inside ++ outside ∧ ∃ start, inside = start ++ [closing] := by
  induction text generalizing depth inside with
  | nil => cases h
  | cons c rest ih =>
    rw [cutAtClosing] at h
    obtain ⟨⟨inner, tail⟩, hcut, heq⟩ := Option.map_eq_some_iff.mp h
    cases heq
    by_cases hdepth :
        (if c = opening then depth + 2 else if c = closing then depth else depth + 1) = 0
    · -- only the closing bracket ends the text
      rw [hdepth, cutAtClosing] at hcut
      cases hcut
      split at hdepth
      · omega
      · split at hdepth
        · next hc => exact ⟨rfl, [], by rw [hc]; rfl⟩
        · omega
    · obtain ⟨depth', hdepth'⟩ := Nat.exists_eq_succ_of_ne_zero hdepth
      rw [hdepth'] at hcut
      obtain ⟨hrest, start, hstart⟩ := ih hcut
      exact ⟨by rw [hrest]; rfl, c :: start, by rw [hstart]; rfl⟩

/-- Characters that are no brackets do not count. -/
lemma cutAtClosing_append {depth : Nat} {word : List Char}
    (hword : ∀ c ∈ word, c ≠ opening ∧ c ≠ closing) (rest : List Char) :
    cutAtClosing opening closing (depth + 1) (word ++ rest) =
      (cutAtClosing opening closing (depth + 1) rest).map fun (inside, outside) =>
        (word ++ inside, outside) := by
  induction word with
  | nil =>
    rw [List.nil_append]
    cases cutAtClosing opening closing (depth + 1) rest <;> rfl
  | cons c word ih =>
    have hc := hword c List.mem_cons_self
    rw [List.cons_append, cutAtClosing, if_neg hc.1, if_neg hc.2,
      ih fun d hd => hword d (List.mem_cons_of_mem c hd), Option.map_map]
    rfl

/-- Renaming keeps the nesting of brackets. -/
theorem cutAtClosing_apply (r : Renaming)
    (hopening : ∀ c, isWord c = true ∨ isBlank c = true → c ≠ opening)
    (hclosing : Renaming.inCall closing = false) (before : Option Char) (depth : Nat)
    (text : List Char) :
    cutAtClosing opening closing (depth + 1) (r.apply before text) =
      (cutAtClosing opening closing (depth + 1) text).map fun (inside, outside) =>
        (r.apply before inside, r.apply (some closing) outside) := by
  have hclosing' : ∀ c, isWord c = true ∨ isBlank c = true → c ≠ closing := by
    rintro c hc rfl
    unfold Renaming.inCall at hclosing
    rcases hc with hc | hc <;> simp [hc] at hclosing
  have hparen : '(' ≠ closing := by
    rintro rfl
    exact absurd hclosing (by decide)
  induction before, text using r.step_induction generalizing depth with
  | nil before =>
    rw [Renaming.apply_nil]
    rfl
  | call before space rest hbefore hspace ih =>
    have hold : ∀ c ∈ r.old ++ space, c ≠ opening ∧ c ≠ closing := by
      intro c hc
      have hclass : isWord c = true ∨ isBlank c = true :=
        (List.mem_append.mp hc).imp (r.old_word c) (hspace c)
      exact ⟨hopening c hclass, hclosing' c hclass⟩
    have hnew : ∀ c ∈ r.new, c ≠ opening ∧ c ≠ closing := fun c hc =>
      ⟨hopening c (Or.inl (r.new_word c hc)), hclosing' c (Or.inl (r.new_word c hc))⟩
    obtain ⟨depth', hdepth⟩ : ∃ depth', (if '(' = opening then depth + 2 else
        if '(' = closing then depth else depth + 1) = depth' + 1 := by
      rw [if_neg hparen]
      split
      · exact ⟨depth + 1, rfl⟩
      · exact ⟨depth, rfl⟩
    rw [r.apply_call hbefore hspace, cutAtClosing_append hnew, ← List.append_assoc,
      cutAtClosing_append hold, cutAtClosing, cutAtClosing, hdepth, ih depth']
    cases cutAtClosing opening closing (depth' + 1) rest with
    | none => rfl
    | some cut =>
      have heq : r.apply before (r.old ++ space ++ '(' :: cut.1) =
          r.new ++ '(' :: r.apply (some '(') cut.1 := by
        rw [List.append_assoc, r.apply_call hbefore hspace]
      simp only [Option.map_some, heq]
  | cons before c rest h ih =>
    rw [r.apply_cons h, cutAtClosing, cutAtClosing]
    generalize hdepth : (if c = opening then depth + 2 else
      if c = closing then depth else depth + 1) = depth'
    cases depth' with
    | zero =>
      have hc : c = closing := by
        split at hdepth
        · omega
        · split at hdepth
          · assumption
          · omega
      subst hc
      rw [cutAtClosing, cutAtClosing]
      have hno : r.NoCall before [c] := r.noCall_of_append h
      have hend : r.apply before [c] = [c] := by
        rw [r.apply_cons hno, Renaming.apply_nil]
      simp only [Option.map_some, hend]
    | succ depth' =>
      rw [ih depth']
      cases hcut : cutAtClosing opening closing (depth' + 1) rest with
      | none => rfl
      | some cut =>
        obtain ⟨inside, outside⟩ := cut
        obtain ⟨rfl, -⟩ := eq_append_of_cutAtClosing hcut
        have hno : r.NoCall before (c :: inside) := r.noCall_of_append h
        simp only [Option.map_some, r.apply_cons hno]

end Brackets

end ShaderLoom.Helper
