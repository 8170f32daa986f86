import Mathlib.Data.List.Forall2
import ShaderLoom.Proofs.HelperHeads

/-!
# Helpers of renamed code

Finding helpers and renaming one of them commute: the helpers of renamed code are the renamed
helpers of the code.  Return types and parameter types stay, since a type is never called; a name
changes if it is the old one; and the text of each helper is renamed like the code.
-/

namespace ShaderLoom.Helper

open Text

/-! ### Pieces between commas -/

/-- The first piece of a text begins it. -/
lemma exists_splitOn_eq_cons (mark : Char) (text : List Char) :
    ∃ piece pieces rest, splitOn mark text = piece :: pieces ∧ text = piece ++ rest := by
  induction text with
  | nil => exact ⟨[], [], [], rfl, rfl⟩
  | cons c text ih =>
    obtain ⟨piece, pieces, rest, hsplit, htext⟩ := ih
    by_cases hc : c = mark
    · refine ⟨[], splitOn mark text, c :: text, ?_, rfl⟩
      rw [splitOn, if_pos hc]
    · refine ⟨c :: piece, pieces, rest, ?_, by rw [htext]; rfl⟩
      rw [splitOn, if_neg hc, hsplit]

/-- Characters other than the mark belong to the first piece. -/
lemma splitOn_append {mark : Char} {word : List Char} (hword : mark ∉ word) {text piece : List Char}
    {pieces : List (List Char)} (h : splitOn mark text = piece :: pieces) :
    splitOn mark (word ++ text) = (word ++ piece) :: pieces := by
  induction word with
  | nil => exact h
  | cons c word ih =>
    rw [List.mem_cons, not_or] at hword
    rw [List.cons_append, splitOn, if_neg (Ne.symm hword.1), ih hword.2]
    rfl

/-- The text between blanks at its two ends. -/
lemma exists_trim_eq (text : List Char) :
    ∃ lead trail, AllBlank lead ∧ AllBlank trail ∧ text = lead ++ (trim text ++ trail) ∧
      NotStarting isBlank (trim text ++ trail) ∧ NotStarting isBlank (trim text).reverse :=
  exists_trimBoth_eq isBlank text

/-- Blanks at the two ends of a text do not matter to its core. -/
lemma trim_append {lead core trail : List Char} (hlead : AllBlank lead) (htrail : AllBlank trail)
    (hstart : NotStarting isBlank (core ++ trail)) (hend : NotStarting isBlank core.reverse) :
    trim (lead ++ (core ++ trail)) = core := by
  unfold trim trimBoth
  rw [dropWhile_run hlead hstart, List.reverse_append,
    dropWhile_run (fun c hc => htrail c (List.mem_reverse.mp hc)) hend, List.reverse_reverse]

/-! ### Types of parameters -/

/-- Two words stand at the front of a text exactly when it begins with a word, a gap and a word. -/
lemma firstOfTwo?_eq_some_iff {text word next : List Char} :
    firstOfTwo? text = some (word, next) ↔
      ∃ gap, word ≠ [] ∧ AllWord word ∧ gap ≠ [] ∧ AllBlank gap ∧
        isWordSide next.head? = true ∧ text = word ++ (gap ++ next) := by
  constructor
  · intro h
    obtain ⟨word', tail, rfl, hword, htail⟩ := exists_run isWord text
    obtain ⟨gap, next', rfl, hgap, hnext⟩ := exists_run isBlank tail
    unfold firstOfTwo? at h
    dsimp only at h
    rw [takeWhile_run hword htail, dropWhile_run hword htail, dropWhile_run hgap hnext] at h
    split at h
    · next hc =>
      cases h
      have hgap_ne : gap ≠ [] := by
        rintro rfl
        exact absurd hc.2.1 (by simp)
      exact ⟨gap, hc.1, hword, hgap_ne, hgap, hc.2.2, rfl⟩
    · cases h
  · rintro ⟨gap, hne, hword, hgap_ne, hgap, hside, rfl⟩
    have hnext := notStarting_isBlank_of_isWordSide hside
    have htail := notStarting_isWord_of_allBlank hgap_ne hgap next
    have hlength : next.length < (gap ++ next).length := by
      have := List.length_pos_iff.mpr hgap_ne
      rw [List.length_append]
      omega
    unfold firstOfTwo?
    dsimp only
    rw [takeWhile_run hword htail, dropWhile_run hword htail, dropWhile_run hgap hnext,
      if_pos ⟨hne, hlength, hside⟩]

/-- Without two words there is no type. -/
lemma parameterType?_of_none {text : List Char} (h : firstOfTwo? text = none) :
    parameterType? text = none := by
  rw [parameterType?.eq_def]
  split
  · rfl
  · next heq =>
    rw [h] at heq
    cases heq

/-- A qualifier is passed over when a type follows it. -/
lemma parameterType?_of_some {text word next : List Char}
    (h : firstOfTwo? text = some (word, next)) :
    parameterType? text =
      if qualifiers.contains (String.ofList word) then
        (parameterType? next).orElse fun _ => some word
      else some word := by
  rw [parameterType?.eq_def]
  split
  · next heq =>
    rw [h] at heq
    cases heq
  · next heq =>
    rw [h] at heq
    cases heq
    rfl

namespace Renaming

variable (r : Renaming)

/-- Two words in a row stay, and what follows them is renamed. -/
lemma firstOfTwo?_apply_of_some (before : Option Char) {text word next : List Char}
    (h : firstOfTwo? text = some (word, next)) :
    ∃ before', firstOfTwo? (r.apply before text) = some (word, r.apply before' next) := by
  obtain ⟨gap, hne, hword, hgap_ne, hgap, hside, rfl⟩ := firstOfTwo?_eq_some_iff.mp h
  refine ⟨lastOf (lastOf before word) gap, ?_⟩
  rw [r.apply_word_append hword (r.noCall_two_words hword hgap_ne hgap hside),
    r.apply_blank_append _ hgap]
  refine firstOfTwo?_eq_some_iff.mpr ⟨gap, hne, hword, hgap_ne, hgap, ?_, rfl⟩
  rw [r.isWordSide_head?_apply]
  exact hside

/-- Renaming does not put two words in a row. -/
lemma firstOfTwo?_apply_of_none {before : Option Char} {text : List Char}
    (h : firstOfTwo? text = none) : firstOfTwo? (r.apply before text) = none := by
  cases hfirst : firstOfTwo? (r.apply before text) with
  | none => rfl
  | some found =>
    obtain ⟨word, next'⟩ := found
    obtain ⟨gap, hne, hword, hgap_ne, hgap, hside, heq⟩ := firstOfTwo?_eq_some_iff.mp hfirst
    have hgap_start := notStarting_isWord_of_allBlank hgap_ne hgap next'
    rcases r.eq_word_append_of_apply hword hgap_start heq with
      ⟨-, -, space, rest, -, -, hrest⟩ | ⟨tail, rfl, htail⟩
    · -- a call has no gap behind its name
      exact absurd hrest (gap_append_ne_parenthesis hgap_ne hgap _ _)
    · obtain ⟨next, rfl, rfl⟩ := r.eq_blank_append_of_apply hgap
        (notStarting_isBlank_of_isWordSide hside) htail.symm
      rw [r.isWordSide_head?_apply] at hside
      rw [firstOfTwo?_eq_some_iff.mpr ⟨gap, hne, hword, hgap_ne, hgap, hside, rfl⟩] at h
      cases h

/-- Renaming keeps the type of a parameter. -/
lemma parameterType?_apply (before : Option Char) (text : List Char) :
    parameterType? (r.apply before text) = parameterType? text := by
  induction h : text.length using Nat.strongRecOn generalizing before text with
  | _ n ih =>
    cases hfirst : firstOfTwo? text with
    | none =>
      rw [parameterType?_of_none hfirst,
        parameterType?_of_none (r.firstOfTwo?_apply_of_none hfirst)]
    | some found =>
      obtain ⟨word, next⟩ := found
      obtain ⟨before', hrenamed⟩ := r.firstOfTwo?_apply_of_some before hfirst
      have hlength := length_of_firstOfTwo? hfirst
      rw [parameterType?_of_some hfirst, parameterType?_of_some hrenamed,
        ih next.length (by omega) before' next rfl]

/-- Renaming keeps the last character of a text. -/
lemma getLast?_apply (before : Option Char) (text : List Char) :
    (r.apply before text).getLast? = text.getLast? := by
  induction before, text using r.step_induction with
  | nil before => rw [apply_nil]
  | call before space rest hbefore hspace ih =>
    rw [r.apply_call hbefore hspace]
    simp [List.getLast?_append, List.getLast?_cons, ih]
  | cons before c rest h ih =>
    rw [r.apply_cons h, List.getLast?_cons, List.getLast?_cons, ih]

/-- Renaming commutes with trimming. -/
lemma exists_trim_apply (before : Option Char) (text : List Char) :
    ∃ before', trim (r.apply before text) = r.apply before' (trim text) := by
  obtain ⟨lead, trail, hlead, htrail, htext, hstart, hend⟩ := exists_trim_eq text
  refine ⟨lastOf before lead, ?_⟩
  have hrenamed : r.apply before text =
      lead ++ (r.apply (lastOf before lead) (trim text) ++ trail) := by
    nth_rewrite 1 [htext]
    rw [r.apply_blank_append before hlead, r.apply_append_blank _ _ htrail]
  rw [hrenamed]
  refine trim_append hlead htrail ?_ ?_
  · rw [← r.apply_append_blank _ _ htrail]
    exact (r.notStarting_isBlank_apply _ _).mpr hstart
  · unfold NotStarting at hend ⊢
    rw [List.head?_reverse] at hend ⊢
    rw [r.getLast?_apply]
    exact hend

/-- Renaming a text renames its pieces. -/
lemma splitOn_apply {mark : Char} (hmark : inCall mark = false) (before : Option Char)
    (text : List Char) {piece : List Char} {pieces : List (List Char)}
    (h : splitOn mark text = piece :: pieces) :
    splitOn mark (r.apply before text) =
      r.apply before piece :: pieces.map (r.apply (some mark)) := by
  induction before, text using r.step_induction generalizing piece pieces with
  | nil before =>
    cases h
    rw [apply_nil]
    rfl
  | call before space rest hbefore hspace ih =>
    obtain ⟨first, others, -, hsplit, -⟩ := exists_splitOn_eq_cons mark rest
    have hold : mark ∉ r.old ++ space ++ ['('] := by
      intro hmem
      rw [r.inCall_of_mem hspace hmem] at hmark
      cases hmark
    have hnew : mark ∉ r.new ++ ['('] := by
      intro hmem
      unfold inCall at hmark
      rcases List.mem_append.mp hmem with hmem | hmem
      · rw [r.new_word mark hmem] at hmark
        cases hmark
      · rw [List.mem_singleton.mp hmem] at hmark
        exact absurd hmark (by decide)
    have htext : r.old ++ (space ++ '(' :: rest) = r.old ++ space ++ ['('] ++ rest := by simp
    rw [htext, splitOn_append hold hsplit] at h
    cases h
    have hpiece : r.old ++ space ++ ['('] ++ first = r.old ++ (space ++ '(' :: first) := by simp
    have hrenamed : r.new ++ '(' :: r.apply (some '(') rest =
        r.new ++ ['('] ++ r.apply (some '(') rest := by simp
    rw [hpiece, r.apply_call hbefore hspace, r.apply_call hbefore hspace, hrenamed,
      splitOn_append hnew (ih hsplit)]
    simp
  | cons before c rest hno ih =>
    obtain ⟨first, others, tail, hsplit, hrest⟩ := exists_splitOn_eq_cons mark rest
    rw [r.apply_cons hno]
    by_cases hc : c = mark
    · subst hc
      rw [splitOn, if_pos rfl] at h
      cases h
      rw [splitOn, if_pos rfl, ih hsplit, hsplit, apply_nil]
      rfl
    · rw [splitOn, if_neg hc, hsplit] at h
      cases h
      have hno' : r.NoCall before (c :: first) := by
        rw [hrest] at hno
        exact r.noCall_of_append hno
      rw [splitOn, if_neg hc, ih hsplit, r.apply_cons hno']

/-- Renaming keeps the types of the parameters. -/
theorem parameterTypesOf_apply (before : Option Char) (parameters : List Char) :
    parameterTypesOf (r.apply before parameters) = parameterTypesOf parameters := by
  have htype : ∀ before piece,
      (parameterType? (trim (r.apply before piece))).map String.ofList =
        (parameterType? (trim piece)).map String.ofList := by
    intro before piece
    obtain ⟨before', htrim⟩ := r.exists_trim_apply before piece
    rw [htrim, r.parameterType?_apply]
  obtain ⟨piece, pieces, -, hsplit, -⟩ := exists_splitOn_eq_cons ',' parameters
  unfold parameterTypesOf
  rw [r.splitOn_apply (by decide) before parameters hsplit, hsplit, List.filterMap_cons,
    List.filterMap_cons, htype, List.filterMap_map]
  have hpieces : (fun piece => (parameterType? (trim piece)).map String.ofList) ∘
      r.apply (some ',') = fun piece => (parameterType? (trim piece)).map String.ofList := by
    funext piece
    exact htype (some ',') piece
  rw [hpieces]

end Renaming

/-! ### Definitions -/

/-- The parts of a helper's text behind its head: the parameters with their closing parenthesis,
blanks, an opening brace and the body with its closing brace. -/
structure IsBody (parameters blank body : List Char) : Prop where
  parameters_closed : ∃ start, parameters = start ++ [')']
  blank_blank : AllBlank blank
  body_closed : ∃ start, body = start ++ ['}']

/-- The helper with the given head, parameters and body. -/
def assembled (head : Head) (parameters blank body : List Char) : Helper where
  returnType := head.returnType
  name := String.ofList head.name
  parameterTypes := parameterTypesOf parameters.dropLast
  text := head.source ++ parameters ++ blank ++ '{' :: body

section Reading

variable {head : Head} {rest parameters afterParameters : List Char}

/-- A head whose parenthesis is not closed has no body. -/
lemma readFrom_of_unclosed (h : cutAtClosing '(' ')' 1 rest = none) :
    readFrom head (head.source ++ rest) = .unclosed := by
  unfold readFrom
  rw [List.drop_left, h]

/-- Without an opening brace there is no body. -/
lemma readFrom_of_not_open (h : cutAtClosing '(' ')' 1 rest = some (parameters, afterParameters))
    (hopen : ∀ inside, afterParameters.dropWhile isBlank ≠ '{' :: inside) :
    readFrom head (head.source ++ rest) = .bodiless := by
  unfold readFrom
  rw [List.drop_left, h]
  dsimp only
  split
  · next inside heq => exact absurd heq (hopen inside)
  · rfl

/-- An opening brace begins a body, which may be unclosed. -/
lemma readFrom_of_open (h : cutAtClosing '(' ')' 1 rest = some (parameters, afterParameters))
    {inside : List Char} (hopen : afterParameters.dropWhile isBlank = '{' :: inside) :
    readFrom head (head.source ++ rest) =
      ((cutAtClosing '{' '}' 1 inside).map fun (body, _) => Reading.definition
        (assembled head parameters (afterParameters.takeWhile isBlank) body)).getD .unclosed := by
  unfold readFrom
  rw [List.drop_left, h]
  dsimp only
  split
  · next inside' heq =>
    rw [hopen] at heq
    cases heq
    cases cutAtClosing '{' '}' 1 inside <;> rfl
  · next hclosed => exact absurd hopen (hclosed inside)

lemma allBlank_takeWhile (text : List Char) : AllBlank (text.takeWhile isBlank) :=
  fun c hc => List.all_eq_true.mp (List.all_takeWhile (l := text) (p := isBlank)) c hc

/-- A head that begins a definition is followed by its parameters and its body. -/
lemma readFrom_eq_definition {helper : Helper}
    (h : readFrom head (head.source ++ rest) = .definition helper) :
    ∃ parameters blank body after, IsBody parameters blank body ∧
      helper = assembled head parameters blank body ∧
      head.source ++ rest = helper.text ++ after := by
  cases hcut : cutAtClosing '(' ')' 1 rest with
  | none =>
    rw [readFrom_of_unclosed hcut] at h
    cases h
  | some cut =>
    obtain ⟨parameters, afterParameters⟩ := cut
    obtain ⟨rfl, hparameters⟩ := eq_append_of_cutAtClosing hcut
    by_cases hopen : ∃ inside, afterParameters.dropWhile isBlank = '{' :: inside
    · obtain ⟨inside, hinside⟩ := hopen
      rw [readFrom_of_open hcut hinside] at h
      cases hcut' : cutAtClosing '{' '}' 1 inside with
      | none =>
        rw [hcut'] at h
        cases h
      | some cut =>
        obtain ⟨body, after⟩ := cut
        obtain ⟨rfl, hbody⟩ := eq_append_of_cutAtClosing hcut'
        rw [hcut'] at h
        cases h
        refine ⟨parameters, afterParameters.takeWhile isBlank, body, after,
          ⟨hparameters, allBlank_takeWhile _, hbody⟩, rfl, ?_⟩
        have hafter : afterParameters =
            afterParameters.takeWhile isBlank ++ '{' :: (body ++ after) := by
          rw [← hinside, List.takeWhile_append_dropWhile]
        nth_rewrite 1 [hafter]
        simp [assembled]
    · rw [readFrom_of_not_open hcut fun inside heq => hopen ⟨inside, heq⟩] at h
      cases h

end Reading

namespace Renaming

variable (r : Renaming)

/-- A helper after the renaming. -/
def onHelper (helper : Helper) : Helper :=
  { helper with
    name := String.ofList (r.onName helper.name.toList)
    text := r.apply none helper.text }

/-- What a head begins after the renaming. -/
def onReading : Reading → Reading
  | .unclosed => .unclosed
  | .bodiless => .bodiless
  | .definition helper => .definition (r.onHelper helper)

/-- A text that ends with a closing bracket is renamed apart from what follows it. -/
lemma apply_closed_append {closing : Char} (hclosing : inCall closing = false)
    {text : List Char} (h : ∃ start, text = start ++ [closing]) (before : Option Char)
    (rest : List Char) :
    r.apply before (text ++ rest) = r.apply before text ++ r.apply (some closing) rest := by
  obtain ⟨start, rfl⟩ := h
  have htext : start ++ [closing] ++ rest = start ++ closing :: rest := by simp
  rw [htext, r.apply_append_cons before start hclosing, r.apply_append_cons before start hclosing,
    apply_nil]
  simp

/-- What ends with a mark outside calls ends with it under new names. -/
lemma exists_apply_closed {closing : Char} (hclosing : inCall closing = false)
    {text : List Char} (h : ∃ start, text = start ++ [closing]) (before : Option Char) :
    ∃ start, r.apply before text = start ++ [closing] := by
  obtain ⟨start, rfl⟩ := h
  exact ⟨r.apply before start, by rw [r.apply_append_cons before start hclosing, apply_nil]⟩

/-- A body stays one under a new name. -/
lemma isBody_apply {parameters blank body : List Char} (h : IsBody parameters blank body) :
    IsBody (r.apply (some '(') parameters) blank (r.apply (some '{') body) where
  parameters_closed := r.exists_apply_closed (by decide) h.parameters_closed _
  blank_blank := h.blank_blank
  body_closed := r.exists_apply_closed (by decide) h.body_closed _

/-- The mark at the end of a text is not part of what is renamed. -/
lemma dropLast_apply_closed {closing : Char} (hclosing : inCall closing = false)
    {text : List Char} (h : ∃ start, text = start ++ [closing]) (before : Option Char) :
    (r.apply before text).dropLast = r.apply before text.dropLast := by
  obtain ⟨start, rfl⟩ := h
  rw [r.apply_append_cons before start hclosing, apply_nil, List.dropLast_concat,
    List.dropLast_concat]

/-- The text of a helper is renamed part by part. -/
lemma apply_text_assembled {head : Head} {gap space : List Char} (hhead : IsHead head gap space)
    {parameters blank body : List Char} (hbody : IsBody parameters blank body)
    (before : Option Char) :
    r.apply before (assembled head parameters blank body).text =
      (r.onHead head).source ++ r.apply (some '(') parameters ++ blank ++
        '{' :: r.apply (some '{') body := by
  have htext : (assembled head parameters blank body).text =
      head.source ++ (parameters ++ (blank ++ '{' :: body)) := by simp [assembled]
  rw [htext, r.apply_source_append before hhead,
    r.apply_closed_append (by decide) hbody.parameters_closed, r.apply_blank_append _
    hbody.blank_blank, r.apply_cons_of_not_word (by decide)]
  simp

/-- Renaming the parts of a helper renames the helper. -/
lemma onHelper_assembled {head : Head} {gap space : List Char} (hhead : IsHead head gap space)
    {parameters blank body : List Char} (hbody : IsBody parameters blank body) :
    r.onHelper (assembled head parameters blank body) =
      assembled (r.onHead head) (r.apply (some '(') parameters) blank
        (r.apply (some '{') body) := by
  have htext := r.apply_text_assembled hhead hbody none
  have htypes : parameterTypesOf (r.apply (some '(') parameters).dropLast =
      parameterTypesOf parameters.dropLast := by
    rw [r.dropLast_apply_closed (by decide) hbody.parameters_closed, r.parameterTypesOf_apply]
  unfold onHelper
  rw [htext]
  simp only [assembled, htypes, String.toList_ofList]
  rfl

/-- The text of a helper is renamed apart from what follows it. -/
lemma apply_helper_append {head : Head} {gap space : List Char} (hhead : IsHead head gap space)
    {parameters blank body : List Char} (hbody : IsBody parameters blank body)
    (before : Option Char) (after : List Char) :
    r.apply before ((assembled head parameters blank body).text ++ after) =
      (r.onHelper (assembled head parameters blank body)).text ++
        r.apply (some '}') after := by
  have hclosed : ∃ start, (assembled head parameters blank body).text = start ++ ['}'] := by
    obtain ⟨start, rfl⟩ := hbody.body_closed
    exact ⟨head.source ++ parameters ++ blank ++ '{' :: start, by simp [assembled]⟩
  rw [r.apply_closed_append (by decide) hclosed, r.apply_text_assembled hhead hbody,
    ← r.apply_text_assembled hhead hbody none]
  rfl

/-- What a head of the renamed text begins is what the head began, renamed. -/
theorem readFrom_apply {head : Head} {gap space : List Char} (hhead : IsHead head gap space)
    (before : Option Char) (rest : List Char) :
    readFrom (r.onHead head) (r.apply before (head.source ++ rest)) =
      r.onReading (readFrom head (head.source ++ rest)) := by
  have hparenthesis : ∀ c, isWord c = true ∨ isBlank c = true → c ≠ '(' := by
    rintro c hc rfl
    exact absurd hc (by decide)
  have hbrace : ∀ c, isWord c = true ∨ isBlank c = true → c ≠ '{' := by
    rintro c hc rfl
    exact absurd hc (by decide)
  have hcutParameters := cutAtClosing_apply r hparenthesis (by decide : inCall ')' = false)
    (some '(') 0 rest
  rw [r.apply_source_append before hhead]
  cases hcut : cutAtClosing '(' ')' 1 rest with
  | none =>
    rw [hcut] at hcutParameters
    rw [readFrom_of_unclosed hcut, readFrom_of_unclosed hcutParameters]
    rfl
  | some cut =>
    obtain ⟨parameters, afterParameters⟩ := cut
    obtain ⟨-, hparameters⟩ := eq_append_of_cutAtClosing hcut
    rw [hcut] at hcutParameters
    by_cases hopen : ∃ inside, afterParameters.dropWhile isBlank = '{' :: inside
    · obtain ⟨inside, hinside⟩ := hopen
      have hinside' : (r.apply (some ')') afterParameters).dropWhile isBlank =
          '{' :: r.apply (some '{') inside := by
        rw [r.dropWhile_isBlank_apply, hinside, r.apply_cons_of_not_word (by decide)]
      rw [readFrom_of_open hcut hinside, readFrom_of_open hcutParameters hinside',
        r.takeWhile_isBlank_apply, cutAtClosing_apply r hbrace (by decide : inCall '}' = false)]
      cases hcut' : cutAtClosing '{' '}' 1 inside with
      | none => rfl
      | some cut =>
        obtain ⟨body, after⟩ := cut
        obtain ⟨-, hbody⟩ := eq_append_of_cutAtClosing hcut'
        exact congrArg Reading.definition
          (r.onHelper_assembled hhead ⟨hparameters, allBlank_takeWhile _, hbody⟩).symm
    · have hopen' : ∀ inside, (r.apply (some ')') afterParameters).dropWhile isBlank ≠
          '{' :: inside := by
        intro inside heq
        rw [r.dropWhile_isBlank_apply] at heq
        obtain ⟨inside', hinside', -⟩ := r.eq_cons_of_apply (by decide) heq
        exact hopen ⟨inside', hinside'⟩
      rw [readFrom_of_not_open hcut fun inside heq => hopen ⟨inside, heq⟩,
        readFrom_of_not_open hcutParameters hopen']
      rfl

end Renaming

/-! ### Finding helpers -/

/-- A head is never empty. -/
lemma IsHead.source_ne_nil {head : Head} {gap space : List Char} (h : IsHead head gap space) :
    head.source ≠ [] := by
  rw [h.source_eq]
  simp

/-- A head ends with its parenthesis. -/
lemma IsHead.lastOf_source {head : Head} {gap space : List Char} (h : IsHead head gap space)
    (before : Option Char) : lastOf before head.source = some '(' := by
  rw [h.source_eq]
  simp

/-- A helper ends with its brace. -/
lemma IsBody.lastOf_text {head : Head} {parameters blank body : List Char}
    (h : IsBody parameters blank body) (before : Option Char) :
    lastOf before (assembled head parameters blank body).text = some '}' := by
  obtain ⟨start, rfl⟩ := h.body_closed
  simp [assembled]

/-- A head begins with a word character that begins a word. -/
lemma head?_eq_none_of_word_before {before : Option Char} (h : isWordSide before = true)
    (text : List Char) : head? before text = none := by
  cases hhead : head? before text with
  | none => rfl
  | some head =>
    have hbefore := (head?_eq_some_iff.mp hhead).1
    rw [h] at hbefore
    cases hbefore

/-- No head begins with a mark. -/
lemma head?_eq_none_of_not_word {c : Char} (hc : isWord c = false) (before : Option Char)
    (rest : List Char) : head? before (c :: rest) = none := by
  cases hhead : head? before (c :: rest) with
  | none => rfl
  | some head =>
    obtain ⟨-, gap, space, rest', his, heq⟩ := head?_eq_some_iff.mp hhead
    have htype := allWord_of_mem_returnTypes his.returnType_mem
    have hside := isWordSide_head?_append htype.1 htype.2
      (gap ++ (head.name ++ (space ++ '(' :: rest')))
    rw [← his.source_append, ← heq] at hside
    have hword : isWord c = true := hside
    rw [hc] at hword
    cases hword

lemma extractAfter_nil (before : Option Char) : extractAfter before [] = [] := by
  rw [extractAfter.eq_def]

/-- Where no head begins, one character is passed over. -/
lemma extractAfter_cons {before : Option Char} {c : Char} {rest : List Char}
    (h : head? before (c :: rest) = none) :
    extractAfter before (c :: rest) = extractAfter (some c) rest := by
  rw [extractAfter.eq_def]
  dsimp only
  rw [h]

section Heads

variable {before : Option Char} {head : Head} {gap space rest : List Char}

/-- An unclosed bracket ends the search. -/
lemma extractAfter_of_unclosed (hbefore : isWordSide before = false) (his : IsHead head gap space)
    (h : readFrom head (head.source ++ rest) = .unclosed) :
    extractAfter before (head.source ++ rest) = [] := by
  have hhead := head?_eq_some_iff.mpr ⟨hbefore, gap, space, rest, his, rfl⟩
  obtain ⟨c, tail, htext⟩ := List.exists_cons_of_ne_nil
    (List.append_ne_nil_of_left_ne_nil his.source_ne_nil rest)
  rw [htext] at hhead h ⊢
  rw [extractAfter.eq_def]
  dsimp only
  rw [hhead]
  dsimp only
  rw [h]

/-- A head without a body is passed over. -/
lemma extractAfter_of_bodiless (hbefore : isWordSide before = false) (his : IsHead head gap space)
    (h : readFrom head (head.source ++ rest) = .bodiless) :
    extractAfter before (head.source ++ rest) = extractAfter (some '(') rest := by
  have hhead := head?_eq_some_iff.mpr ⟨hbefore, gap, space, rest, his, rfl⟩
  obtain ⟨c, tail, htext⟩ := List.exists_cons_of_ne_nil
    (List.append_ne_nil_of_left_ne_nil his.source_ne_nil rest)
  have hdrop := drop_length_sub_one his.source_ne_nil htext.symm
  rw [htext] at hhead h ⊢
  rw [extractAfter.eq_def]
  dsimp only
  rw [hhead]
  dsimp only
  rw [h]
  dsimp only
  rw [hdrop, his.lastOf_source]

/-- A definition is found, and the search goes on behind it. -/
lemma extractAfter_of_definition (hbefore : isWordSide before = false)
    (his : IsHead head gap space) {parameters blank body after : List Char}
    (hbody : IsBody parameters blank body)
    (h : readFrom head (head.source ++ rest) =
      .definition (assembled head parameters blank body))
    (hafter : head.source ++ rest = (assembled head parameters blank body).text ++ after) :
    extractAfter before (head.source ++ rest) =
      assembled head parameters blank body :: extractAfter (some '}') after := by
  have hhead := head?_eq_some_iff.mpr ⟨hbefore, gap, space, rest, his, rfl⟩
  obtain ⟨c, tail, htext⟩ := List.exists_cons_of_ne_nil
    (List.append_ne_nil_of_left_ne_nil his.source_ne_nil rest)
  have hne : (assembled head parameters blank body).text ≠ [] := by simp [assembled]
  have hdrop := drop_length_sub_one hne (htext.symm.trans hafter)
  rw [htext] at hhead h ⊢
  rw [extractAfter.eq_def]
  dsimp only
  rw [hhead]
  dsimp only
  rw [h]
  dsimp only
  rw [hdrop, hbody.lastOf_text]

end Heads

/-- A word that begins no head is passed over. -/
lemma extractAfter_word_append {before : Option Char} {word : List Char} (hword : AllWord word)
    {rest : List Char} (h : head? before (word ++ rest) = none) :
    extractAfter before (word ++ rest) = extractAfter (lastOf before word) rest := by
  induction word generalizing before with
  | nil => rw [lastOf_nil, List.nil_append]
  | cons c word ih =>
    rw [allWord_cons] at hword
    have hc : isWordSide (some c) = true := hword.1
    rw [List.cons_append] at h ⊢
    rw [extractAfter_cons h, ih hword.2 (head?_eq_none_of_word_before hc _), lastOf_cons]

/-- Characters that are no word characters are passed over. -/
lemma extractAfter_gap_append (before : Option Char) {gap : List Char}
    (hgap : ∀ c ∈ gap, isWord c = false) (rest : List Char) :
    extractAfter before (gap ++ rest) = extractAfter (lastOf before gap) rest := by
  induction gap generalizing before with
  | nil => rw [lastOf_nil, List.nil_append]
  | cons c gap ih =>
    rw [List.cons_append, extractAfter_cons
      (head?_eq_none_of_not_word (hgap c List.mem_cons_self) before _),
      ih (some c) fun d hd => hgap d (List.mem_cons_of_mem c hd), lastOf_cons]

namespace Renaming

variable (r : Renaming)

/-- A call that begins no head is passed over. -/
lemma extractAfter_call {before : Option Char} {name space : List Char} (hname : AllWord name)
    (hspace : AllBlank space) {rest : List Char}
    (h : head? before (name ++ (space ++ '(' :: rest)) = none) :
    extractAfter before (name ++ (space ++ '(' :: rest)) = extractAfter (some '(') rest := by
  have hgap : ∀ c ∈ space ++ ['('], isWord c = false := by
    intro c hc
    rcases List.mem_append.mp hc with hc | hc
    · exact isWord_eq_false_of_isBlank (hspace c hc)
    · rw [List.mem_singleton.mp hc]
      decide
  have htail : space ++ '(' :: rest = space ++ ['('] ++ rest := by simp
  rw [extractAfter_word_append hname h, htail, extractAfter_gap_append _ hgap]
  simp

/-- The helpers of renamed code are the renamed helpers of the code. -/
theorem extractAfter_apply (before : Option Char) (text : List Char) :
    extractAfter before (r.apply before text) = (extractAfter before text).map r.onHelper := by
  induction h : text.length using Nat.strongRecOn generalizing before text with
  | _ n ih =>
    have hrenamed := r.head?_apply before text
    cases hhead : head? before text with
    | some head =>
      obtain ⟨hbefore, gap, space, rest, his, rfl⟩ := head?_eq_some_iff.mp hhead
      have his' := r.isHead_onHead his
      have hread := r.readFrom_apply his before rest
      have hsource := List.length_pos_iff.mpr his.source_ne_nil
      rw [List.length_append] at h
      rw [r.apply_source_append before his] at hread ⊢
      cases hreading : readFrom head (head.source ++ rest) with
      | unclosed =>
        rw [hreading] at hread
        rw [extractAfter_of_unclosed hbefore his hreading,
          extractAfter_of_unclosed hbefore his' hread]
        rfl
      | bodiless =>
        rw [hreading] at hread
        rw [extractAfter_of_bodiless hbefore his hreading,
          extractAfter_of_bodiless hbefore his' hread, ih rest.length (by omega) _ rest rfl]
      | definition helper =>
        obtain ⟨parameters, blank, body, after, hbody, rfl, hafter⟩ :=
          readFrom_eq_definition hreading
        rw [hreading] at hread
        have hafter' := r.apply_helper_append his hbody before after
        rw [← hafter, r.apply_source_append before his, r.onHelper_assembled his hbody] at hafter'
        rw [onReading, r.onHelper_assembled his hbody] at hread
        have hlength : after.length < n := by
          have := congrArg List.length hafter
          have hne : (assembled head parameters blank body).text ≠ [] := by simp [assembled]
          have hpos := List.length_pos_iff.mpr hne
          rw [List.length_append, List.length_append] at this
          omega
        rw [extractAfter_of_definition hbefore his hbody hreading hafter,
          extractAfter_of_definition hbefore his' (r.isBody_apply hbody) hread hafter',
          ih after.length hlength _ after rfl, List.map_cons, r.onHelper_assembled his hbody]
    | none =>
      rw [hhead] at hrenamed
      by_cases hno : r.NoCall before text
      · cases text with
        | nil => rw [apply_nil, extractAfter_nil, List.map_nil]
        | cons c rest =>
          rw [List.length_cons] at h
          rw [r.apply_cons hno] at hrenamed ⊢
          rw [extractAfter_cons hhead, extractAfter_cons hrenamed,
            ih rest.length (by omega) _ rest rfl]
      · -- a call of the old name that is no definition
        obtain ⟨call, hcall⟩ := Option.ne_none_iff_exists'.mp hno
        obtain ⟨hbefore, space, rest, hspace, rfl, -⟩ := r.callAt?_eq_some_iff.mp hcall
        rw [r.apply_call hbefore hspace] at hrenamed ⊢
        have hlength : rest.length < n := by
          rw [List.length_append, List.length_append, List.length_cons] at h
          omega
        have hnil : AllBlank [] := List.forall_mem_nil _
        rw [extractAfter_call r.old_word hspace hhead, ← ih rest.length hlength _ rest rfl]
        exact extractAfter_call r.new_word hnil hrenamed

/-- Renaming a helper in shader code renames it among the helpers of the code. -/
theorem extract_apply (code : List Char) :
    extract (r.apply none code) = (extract code).map r.onHelper :=
  r.extractAfter_apply none code

end Renaming

/-! ### Renaming several helpers -/

/-- A nonempty word. -/
def IsName (name : String) : Prop := name.toList ≠ [] ∧ AllWord name.toList

/-- The name that several renamings, made one after the other, give to a helper. -/
def renamed (renames : List (String × String)) (name : String) : String :=
  renames.foldl (fun name rename => if name = rename.1 then rename.2 else name) name

lemma renamed_cons (rename : String × String) (renames : List (String × String)) (name : String) :
    renamed (rename :: renames) name =
      renamed renames (if name = rename.1 then rename.2 else name) := rfl

/-- Renamings of other names change nothing. -/
lemma renamed_of_not_mem {renames : List (String × String)} {name : String}
    (h : name ∉ renames.map Prod.fst) : renamed renames name = name := by
  induction renames with
  | nil => rfl
  | cons rename renames ih =>
    rw [List.map_cons, List.mem_cons, not_or] at h
    rw [renamed_cons, if_neg h.1, ih h.2]

/-- Putting a text behind several names puts it behind each of them, as long as no name comes about
that is renamed again. -/
lemma renamed_map_append {names : List String} {name suffix : String} (hname : name ∈ names)
    (h : ∀ other ∈ names, other ≠ name ++ suffix) :
    renamed (names.map fun name => (name, name ++ suffix)) name = name ++ suffix := by
  induction names with
  | nil => cases hname
  | cons first names ih =>
    have hrest : ∀ other ∈ names, other ≠ name ++ suffix :=
      fun other hother => h other (List.mem_cons_of_mem first hother)
    rw [List.map_cons, renamed_cons]
    by_cases hfirst : name = first
    · rw [if_pos hfirst, ← hfirst]
      refine renamed_of_not_mem fun hmem => ?_
      rw [List.map_map] at hmem
      obtain ⟨other, hother, heq⟩ := List.mem_map.mp hmem
      exact hrest other hother heq
    · rw [if_neg hfirst]
      exact ih ((List.mem_cons.mp hname).resolve_left hfirst) hrest

namespace Renaming

/-- The old and the new name. -/
def pair (r : Renaming) : String × String := (String.ofList r.old, String.ofList r.new)

/-- The code with several helpers renamed, one after the other. -/
def applyAll (rs : List Renaming) (code : List Char) : List Char :=
  rs.foldl (fun code r => r.apply none code) code

/-- A helper after several renamings. -/
def onHelperAll (rs : List Renaming) (helper : Helper) : Helper :=
  rs.foldl (fun helper r => r.onHelper helper) helper

/-- Renamings are applied one after the other and never fail. -/
lemma renameAll_map_pair (rs : List Renaming) (code : List Char) :
    renameAll (rs.map pair) code = .ok (applyAll rs code) := by
  induction rs generalizing code with
  | nil => rfl
  | cons r rs ih =>
    have hstep : renameAll ((r :: rs).map pair) code =
        renameOne r.pair.1 r.pair.2 code >>= renameAll (rs.map pair) := rfl
    rw [hstep, pair, r.renameOne_eq]
    exact ih (r.apply none code)

/-- The helpers of code in which several helpers were renamed. -/
lemma extract_applyAll (rs : List Renaming) (code : List Char) :
    extract (applyAll rs code) = (extract code).map (onHelperAll rs) := by
  induction rs generalizing code with
  | nil => exact (List.map_id _).symm
  | cons r rs ih =>
    have hstep : applyAll (r :: rs) code = applyAll rs (r.apply none code) := rfl
    rw [hstep, ih, r.extract_apply, List.map_map]
    rfl

lemma name_onHelper (r : Renaming) (helper : Helper) :
    (r.onHelper helper).name = if helper.name = r.pair.1 then r.pair.2 else helper.name := by
  have hiff : helper.name.toList = r.old ↔ helper.name = r.pair.1 := by
    constructor
    · intro h
      rw [pair, ← h, String.ofList_toList]
    · intro h
      rw [h, pair, String.toList_ofList]
  unfold onHelper onName
  by_cases h : helper.name.toList = r.old
  · rw [if_pos h, if_pos (hiff.mp h)]
    rfl
  · rw [if_neg h, if_neg (fun h' => h (hiff.mpr h')), String.ofList_toList]

/-- A renamed helper keeps its types, has its name renamed, and its text renamed like code. -/
lemma onHelperAll_eq (rs : List Renaming) (helper : Helper) :
    onHelperAll rs helper =
      { helper with
        name := renamed (rs.map pair) helper.name
        text := applyAll rs helper.text } := by
  induction rs generalizing helper with
  | nil => rfl
  | cons r rs ih =>
    have hstep : onHelperAll (r :: rs) helper = onHelperAll rs (r.onHelper helper) := rfl
    rw [hstep, ih, List.map_cons, renamed_cons, r.name_onHelper]
    rfl

/-- Pairs of words are renamings. -/
lemma exists_map_pair {renames : List (String × String)}
    (h : ∀ rename ∈ renames, IsName rename.1 ∧ IsName rename.2) :
    ∃ rs : List Renaming, rs.map pair = renames := by
  induction renames with
  | nil => exact ⟨[], rfl⟩
  | cons rename renames ih =>
    obtain ⟨rs, hrs⟩ := ih fun other hother => h other (List.mem_cons_of_mem rename hother)
    obtain ⟨hold, hnew⟩ := h rename List.mem_cons_self
    refine ⟨⟨rename.1.toList, rename.2.toList, hold.1, hold.2, hnew.1, hnew.2⟩ :: rs, ?_⟩
    rw [List.map_cons, hrs, pair, String.ofList_toList, String.ofList_toList]

end Renaming

/-- The code with all renamings made, where that succeeds. -/
def renamedText (renames : List (String × String)) (code : List Char) : List Char :=
  match renameAll renames code with
  | .ok text => text
  | .error _ => code

/-- A helper with all renamings made. -/
def underNames (renames : List (String × String)) (helper : Helper) : Helper :=
  { helper with
    name := renamed renames helper.name
    text := renamedText renames helper.text }

/-- The renamed text is what the renamings make of it. -/
lemma Renaming.renamedText_map_pair (rs : List Renaming) (code : List Char) :
    renamedText (rs.map pair) code = applyAll rs code := by
  unfold renamedText
  rw [renameAll_map_pair]

section Words

variable {renames : List (String × String)}
  (h : ∀ rename ∈ renames, IsName rename.1 ∧ IsName rename.2)

include h

/-- Renaming between words succeeds. -/
theorem renameAll_eq_ok (code : List Char) :
    renameAll renames code = .ok (renamedText renames code) := by
  obtain ⟨rs, rfl⟩ := Renaming.exists_map_pair h
  rw [Renaming.renameAll_map_pair, Renaming.renamedText_map_pair]

/-- Renaming between words renames the helpers of the code. -/
theorem extract_renamedText (code : List Char) :
    extract (renamedText renames code) = (extract code).map (underNames renames) := by
  obtain ⟨rs, rfl⟩ := Renaming.exists_map_pair h
  rw [Renaming.renamedText_map_pair, Renaming.extract_applyAll]
  refine List.map_congr_left fun helper _ => ?_
  rw [Renaming.onHelperAll_eq, underNames, Renaming.renamedText_map_pair]

end Words

/-- What renaming makes of one helper: the types stay, the name runs through the renamings one
after the other, and the text is renamed by itself. -/
structure IsRenamed (renames : List (String × String)) (helper other : Helper) : Prop where
  returnType_eq : other.returnType = helper.returnType
  parameterTypes_eq : other.parameterTypes = helper.parameterTypes
  name_eq : other.name = renamed renames helper.name
  renameAll_text : renameAll renames helper.text = .ok other.text

/-- Finding helpers and renaming between words commute for every code, also where its brackets do
not match: renaming succeeds, and the helpers of the renamed code are, one by one and in the same
order, the renamed helpers of the code. -/
theorem extract_renameAll {renames : List (String × String)}
    (h : ∀ rename ∈ renames, IsName rename.1 ∧ IsName rename.2) (code : List Char) :
    ∃ text, renameAll renames code = .ok text ∧
      List.Forall₂ (IsRenamed renames) (extract code) (extract text) := by
  refine ⟨renamedText renames code, renameAll_eq_ok h code, ?_⟩
  rw [extract_renamedText h, List.forall₂_map_right_iff, List.forall₂_same]
  intro helper _
  exact ⟨rfl, rfl, rfl, renameAll_eq_ok h helper.text⟩

/-- Two renamings in a chain, where the first gives the name that the second takes away. -/
theorem extract_renameAll_chain :
    (∀ rename ∈ [("f", "g"), ("g", "h")], IsName rename.1 ∧ IsName rename.2) ∧
      ∃ text, renameAll [("f", "g"), ("g", "h")]
          "float f (vec2 g) \x7b return g (f(g)); \x7d bool g() \x7b".toList = .ok text ∧
        List.Forall₂ (IsRenamed [("f", "g"), ("g", "h")])
          (extract "float f (vec2 g) \x7b return g (f(g)); \x7d bool g() \x7b".toList)
          (extract text) := by
  have hword : isWord 'f' = true ∧ isWord 'g' = true ∧ isWord 'h' = true := by decide
  have hnames : ∀ rename ∈ [("f", "g"), ("g", "h")], IsName rename.1 ∧ IsName rename.2 := by
    simp [IsName, AllWord, hword]
  exact ⟨hnames, extract_renameAll hnames _⟩

/-! ### Names of found helpers -/

/-- A helper that is found returns one of the known types, and its name is a word. -/
lemma returnType_mem_and_isName_of_mem_extractAfter {before : Option Char} {text : List Char}
    {helper : Helper} (h : helper ∈ extractAfter before text) :
    helper.returnType ∈ returnTypes ∧ IsName helper.name := by
  fun_induction extractAfter before text with
  | case1 => cases h
  | case2 before c rest hhead ih => exact ih h
  | case3 before c rest head hhead hread => cases h
  | case4 before c rest head hhead hread ih => exact ih h
  | case5 before c rest head hhead found hread ih =>
    rcases List.mem_cons.mp h with rfl | h
    · obtain ⟨-, gap, space, rest', his, heq⟩ := head?_eq_some_iff.mp hhead
      rw [heq] at hread
      obtain ⟨parameters, blank, body, after, -, rfl, -⟩ := readFrom_eq_definition hread
      refine ⟨his.returnType_mem, ?_, ?_⟩
      · simpa [assembled] using his.name_ne_nil
      · simpa [assembled] using his.name_word
    · exact ih h

/-- The name of a helper that is found stands in the text. -/
lemma name_infix_of_mem_extractAfter {before : Option Char} {text : List Char} {helper : Helper}
    (h : helper ∈ extractAfter before text) : helper.name.toList <:+: text := by
  fun_induction extractAfter before text with
  | case1 => cases h
  | case2 before c rest hhead ih => exact List.infix_cons (ih h)
  | case3 before c rest head hhead hread => cases h
  | case4 before c rest head hhead hread ih =>
    exact List.infix_cons ((ih h).trans (List.drop_suffix _ rest).isInfix)
  | case5 before c rest head hhead found hread ih =>
    rcases List.mem_cons.mp h with rfl | h
    · obtain ⟨-, gap, space, rest', his, heq⟩ := head?_eq_some_iff.mp hhead
      rw [heq] at hread ⊢
      obtain ⟨parameters, blank, body, after, -, rfl, -⟩ := readFrom_eq_definition hread
      have hname : (assembled head parameters blank body).name.toList = head.name := by
        simp [assembled]
      rw [hname, his.source_eq]
      refine ⟨head.returnType.toList ++ gap, space ++ ['('] ++ rest', ?_⟩
      simp only [List.append_assoc]
    · exact List.infix_cons ((ih h).trans (List.drop_suffix _ rest).isInfix)

/-- The names of helpers stand in their code. -/
lemma name_infix_of_mem_names {code : List Char} {name : String} (h : name ∈ names code) :
    name.toList <:+: code := by
  obtain ⟨helper, hhelper, rfl⟩ := List.mem_map.mp (List.mem_eraseDups.mp h)
  exact name_infix_of_mem_extractAfter hhelper

/-- The names of helpers are words. -/
lemma isName_of_mem_names {code : List Char} {name : String} (h : name ∈ names code) :
    IsName name := by
  obtain ⟨helper, hhelper, rfl⟩ := List.mem_map.mp (List.mem_eraseDups.mp h)
  exact (returnType_mem_and_isName_of_mem_extractAfter hhelper).2

end ShaderLoom.Helper
