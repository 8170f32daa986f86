import ShaderLoom.Proofs.CallReplacement

/-!
# Heads of helpers

The head of a helper is a return type, blanks, a name, blanks and an opening parenthesis.  This
form determines the head, and renaming keeps it: only the name changes, and the blanks behind the
name are left out when it does.
-/

namespace ShaderLoom.Helper

open Text

/-! ### The form of a head -/

/-- Return types are words. -/
lemma allWord_of_mem_returnTypes {type : String} (h : type ∈ returnTypes) :
    type.toList ≠ [] ∧ AllWord type.toList := by
  have hall : returnTypes.all (fun type => !type.toList.isEmpty && type.toList.all isWord) =
      true := by
    decide
  have htype := List.all_eq_true.mp hall type h
  rw [Bool.and_eq_true, List.all_eq_true] at htype
  exact ⟨fun hnil => by simp [hnil] at htype, htype.2⟩

/-- The head is made of its return type, a gap, its name, a space and a parenthesis. -/
structure IsHead (head : Head) (gap space : List Char) : Prop where
  returnType_mem : head.returnType ∈ returnTypes
  gap_ne_nil : gap ≠ []
  gap_blank : AllBlank gap
  name_ne_nil : head.name ≠ []
  name_word : AllWord head.name
  space_blank : AllBlank space
  source_eq : head.source = head.returnType.toList ++ (gap ++ (head.name ++ (space ++ ['('])))

/-- Blanks at the front of a text are no word. -/
lemma notStarting_isWord_of_allBlank {blank : List Char} (hne : blank ≠ []) (h : AllBlank blank)
    (rest : List Char) : NotStarting isWord (blank ++ rest) := by
  obtain ⟨c, tail, rfl⟩ := List.exists_cons_of_ne_nil hne
  exact notStarting_cons.mpr (isWord_eq_false_of_isBlank (h c List.mem_cons_self))

/-- A word at the front of a text is not blank. -/
lemma notStarting_isBlank_of_allWord {word : List Char} (hne : word ≠ []) (h : AllWord word)
    (rest : List Char) : NotStarting isBlank (word ++ rest) := by
  obtain ⟨c, tail, rfl⟩ := List.exists_cons_of_ne_nil hne
  exact notStarting_cons.mpr (isBlank_eq_false_of_isWord (h c List.mem_cons_self))

lemma notStarting_isBlank_parenthesis (rest : List Char) : NotStarting isBlank ('(' :: rest) :=
  notStarting_cons.mpr (by decide)

/-- A text that begins with a word character does not begin with a blank. -/
lemma notStarting_isBlank_of_isWordSide {text : List Char} (h : isWordSide text.head? = true) :
    NotStarting isBlank text := by
  cases text with
  | nil => exact notStarting_nil
  | cons c rest => exact notStarting_cons.mpr (isBlank_eq_false_of_isWord h)

/-- A gap does not begin with a parenthesis. -/
lemma gap_append_ne_parenthesis {gap : List Char} (hne : gap ≠ []) (hgap : AllBlank gap)
    (rest rest' : List Char) : gap ++ rest ≠ '(' :: rest' := by
  intro heq
  obtain ⟨c, tail, rfl⟩ := List.exists_cons_of_ne_nil hne
  rw [List.cons_append, List.cons.injEq] at heq
  have hparen : isBlank '(' = true := heq.1 ▸ hgap c List.mem_cons_self
  exact absurd hparen (by decide)

/-- What follows a word in front of a parenthesis does not begin with a word character. -/
lemma notStarting_isWord_space {space : List Char} (h : AllBlank space) (rest : List Char) :
    NotStarting isWord (space ++ '(' :: rest) := by
  cases space with
  | nil => exact notStarting_cons.mpr (by decide)
  | cons c tail => exact notStarting_isWord_of_allBlank (List.cons_ne_nil c tail) h _

namespace IsHead

variable {head head' : Head} {gap gap' space space' : List Char}

/-- The source of a head part by part. -/
lemma source_append (h : IsHead head gap space) (rest : List Char) :
    head.source ++ rest =
      head.returnType.toList ++ (gap ++ (head.name ++ (space ++ '(' :: rest))) := by
  rw [h.source_eq]
  simp

/-- The parts of a head are determined by the text that it begins. -/
lemma unique (h : IsHead head gap space) (h' : IsHead head' gap' space') {rest rest' : List Char}
    (heq : head.source ++ rest = head'.source ++ rest') : head = head' := by
  rw [h.source_append, h'.source_append] at heq
  obtain ⟨htype, heq⟩ := run_unique heq (allWord_of_mem_returnTypes h.returnType_mem).2
    (notStarting_isWord_of_allBlank h.gap_ne_nil h.gap_blank _)
    (allWord_of_mem_returnTypes h'.returnType_mem).2
    (notStarting_isWord_of_allBlank h'.gap_ne_nil h'.gap_blank _)
  obtain ⟨hgap, heq⟩ := run_unique heq h.gap_blank
    (notStarting_isBlank_of_allWord h.name_ne_nil h.name_word _) h'.gap_blank
    (notStarting_isBlank_of_allWord h'.name_ne_nil h'.name_word _)
  obtain ⟨hname, heq⟩ := run_unique heq h.name_word (notStarting_isWord_space h.space_blank _)
    h'.name_word (notStarting_isWord_space h'.space_blank _)
  obtain ⟨hspace, -⟩ := run_unique heq h.space_blank (notStarting_isBlank_parenthesis _)
    h'.space_blank (notStarting_isBlank_parenthesis _)
  have hsource : head.source = head'.source := by
    rw [h.source_eq, h'.source_eq, htype, hgap, hname, hspace]
  have hreturn : head.returnType = head'.returnType := String.toList_inj.mp htype
  cases head
  cases head'
  cases hreturn
  cases hname
  cases hsource
  rfl

end IsHead

/-! ### Finding heads -/

/-- A head that returns a given type is found exactly when the text begins with it. -/
lemma headReturning?_eq_some_iff {type : String} (htype : type ∈ returnTypes) {text : List Char}
    {head : Head} :
    headReturning? text type = some head ↔
      head.returnType = type ∧ ∃ gap space rest, IsHead head gap space ∧
        text = head.source ++ rest := by
  constructor
  · intro h
    unfold headReturning? at h
    split at h
    · next hprefix =>
      obtain ⟨tail, rfl⟩ := List.isPrefixOf_iff_prefix.mp hprefix
      dsimp only at h
      rw [List.drop_left] at h
      obtain ⟨gap, afterGap, rfl, hgap, hafterGap⟩ := exists_run isBlank tail
      rw [takeWhile_run hgap hafterGap, dropWhile_run hgap hafterGap] at h
      obtain ⟨name, afterName, rfl, hname, hafterName⟩ := exists_run isWord afterGap
      rw [takeWhile_run hname hafterName, dropWhile_run hname hafterName] at h
      obtain ⟨space, rest, rfl, hspace, hrest⟩ := exists_run isBlank afterName
      rw [takeWhile_run hspace hrest, dropWhile_run hspace hrest] at h
      split at h
      · next rest' =>
        split at h
        · cases h
        · next hne =>
          rw [Bool.or_eq_true, List.isEmpty_iff, List.isEmpty_iff, not_or] at hne
          cases h
          refine ⟨rfl, gap, space, rest', ⟨htype, hne.1, hgap, hne.2, hname, hspace, ?_⟩, ?_⟩
          · simp
          · simp
      · cases h
    · cases h
  · rintro ⟨rfl, gap, space, rest, hhead, rfl⟩
    have hgap : gap.isEmpty = false := List.isEmpty_eq_false_iff.mpr hhead.gap_ne_nil
    have hname : head.name.isEmpty = false := List.isEmpty_eq_false_iff.mpr hhead.name_ne_nil
    have hafterGap := notStarting_isBlank_of_allWord hhead.name_ne_nil hhead.name_word
      (space ++ '(' :: rest)
    have hafterName := notStarting_isWord_space hhead.space_blank rest
    rw [hhead.source_append]
    unfold headReturning?
    rw [if_pos (List.isPrefixOf_iff_prefix.mpr (List.prefix_append _ _))]
    dsimp only
    rw [List.drop_left, takeWhile_run hhead.gap_blank hafterGap,
      dropWhile_run hhead.gap_blank hafterGap, takeWhile_run hhead.name_word hafterName,
      dropWhile_run hhead.name_word hafterName,
      takeWhile_run hhead.space_blank (notStarting_isBlank_parenthesis rest),
      dropWhile_run hhead.space_blank (notStarting_isBlank_parenthesis rest), hgap, hname]
    have hsource : head.returnType.toList ++ gap ++ head.name ++ space ++ ['('] = head.source := by
      rw [hhead.source_eq]
      simp
    rw [hsource]
    rfl

/-- A head is found exactly when the text begins with it and does not go on with a word. -/
theorem head?_eq_some_iff {before : Option Char} {text : List Char} {head : Head} :
    head? before text = some head ↔
      isWordSide before = false ∧ ∃ gap space rest, IsHead head gap space ∧
        text = head.source ++ rest := by
  constructor
  · intro h
    unfold head? at h
    split at h
    · next hboundary =>
      obtain ⟨type, htype, hfound⟩ := List.exists_of_findSome?_eq_some h
      obtain ⟨rfl, gap, space, rest, hhead, rfl⟩ := (headReturning?_eq_some_iff htype).mp hfound
      refine ⟨?_, gap, space, rest, hhead, rfl⟩
      have hword := allWord_of_mem_returnTypes htype
      unfold atBoundary at hboundary
      rw [hhead.source_append, isWordSide_head?_append hword.1 hword.2] at hboundary
      simpa using hboundary
    · cases h
  · rintro ⟨hbefore, gap, space, rest, hhead, rfl⟩
    have hword := allWord_of_mem_returnTypes hhead.returnType_mem
    have hboundary : atBoundary before (head.source ++ rest) = true := by
      unfold atBoundary
      rw [hhead.source_append, isWordSide_head?_append hword.1 hword.2, hbefore]
      rfl
    unfold head?
    rw [if_pos hboundary]
    have hfound := (headReturning?_eq_some_iff hhead.returnType_mem).mpr
      ⟨rfl, gap, space, rest, hhead, rfl⟩
    cases hsome : returnTypes.findSome? (headReturning? (head.source ++ rest)) with
    | none =>
      rw [List.findSome?_eq_none_iff] at hsome
      rw [hsome _ hhead.returnType_mem] at hfound
      cases hfound
    | some other =>
      obtain ⟨type, htype, hother⟩ := List.exists_of_findSome?_eq_some hsome
      obtain ⟨-, gap', space', rest', hhead', heq⟩ := (headReturning?_eq_some_iff htype).mp hother
      rw [hhead.unique hhead' heq]

/-! ### What a renamed text begins with -/

namespace Renaming

variable (r : Renaming)

/-- Blanks at the front of the renamed text stand at the front of the text. -/
lemma eq_blank_append_of_apply {before : Option Char} {text blank rest' : List Char}
    (hblank : AllBlank blank) (hrest' : NotStarting isBlank rest')
    (h : r.apply before text = blank ++ rest') :
    ∃ rest, text = blank ++ rest ∧ rest' = r.apply (lastOf before blank) rest := by
  obtain ⟨run, rest, rfl, hrun, hrest⟩ := exists_run isBlank text
  rw [r.apply_blank_append before hrun] at h
  obtain ⟨rfl, rfl⟩ := run_unique h hrun ((r.notStarting_isBlank_apply _ _).mpr hrest) hblank hrest'
  exact ⟨rest, rfl, rfl⟩

/-- A word at the front of the renamed text is the new name of a call, or stands at the front of
the text. -/
lemma eq_word_append_of_apply {before : Option Char} {text word rest' : List Char}
    (hword : AllWord word) (hrest' : NotStarting isWord rest')
    (h : r.apply before text = word ++ rest') :
    (isWordSide before = false ∧ word = r.new ∧ ∃ space rest, AllBlank space ∧
      text = r.old ++ (space ++ '(' :: rest) ∧ rest' = '(' :: r.apply (some '(') rest) ∨
    ∃ rest, text = word ++ rest ∧ rest' = r.apply (lastOf before word) rest := by
  by_cases hno : r.NoCall before text
  · right
    obtain ⟨run, rest, rfl, hrun, hrest⟩ := exists_run isWord text
    rw [r.apply_word_append hrun hno] at h
    obtain ⟨rfl, rfl⟩ := run_unique h hrun ((r.notStarting_isWord_apply _ _).mpr hrest) hword hrest'
    exact ⟨rest, rfl, rfl⟩
  · left
    obtain ⟨call, hcall⟩ := Option.ne_none_iff_exists'.mp hno
    obtain ⟨hbefore, space, rest, hspace, rfl, -⟩ := r.callAt?_eq_some_iff.mp hcall
    rw [r.apply_call hbefore hspace] at h
    obtain ⟨rfl, rfl⟩ := run_unique h r.new_word (notStarting_cons.mpr (by decide)) hword hrest'
    exact ⟨hbefore, rfl, space, rest, hspace, rfl, rfl⟩

/-- A character that is no word character, at the front of the renamed text, stands at the front
of the text. -/
lemma eq_cons_of_apply {before : Option Char} {text rest' : List Char} {c : Char}
    (hc : isWord c = false) (h : r.apply before text = c :: rest') :
    ∃ rest, text = c :: rest ∧ rest' = r.apply (some c) rest := by
  have hstart : NotStarting isWord text := by
    rw [← r.notStarting_isWord_apply before, h]
    exact notStarting_cons.mpr hc
  cases text with
  | nil =>
    rw [apply_nil] at h
    cases h
  | cons d rest =>
    rw [r.apply_cons_of_not_word (notStarting_cons.mp hstart)] at h
    cases h
    exact ⟨rest, rfl, rfl⟩

/-! ### Renaming heads -/

/-- The name of a helper after the renaming. -/
def onName (name : List Char) : List Char := if name = r.old then r.new else name

/-- The blanks between the name of a helper and its parenthesis after the renaming. -/
def onSpace (name space : List Char) : List Char := if name = r.old then [] else space

/-- A head after the renaming. -/
def onHead (head : Head) : Head := ⟨head.returnType, r.onName head.name, r.apply none head.source⟩

lemma onName_ne_nil {name : List Char} (h : name ≠ []) : r.onName name ≠ [] := by
  unfold onName
  split
  · exact r.new_ne_nil
  · exact h

/-- A renamed name is a word. -/
lemma allWord_onName {name : List Char} (h : AllWord name) : AllWord (r.onName name) := by
  unfold onName
  split
  · exact r.new_word
  · exact h

/-- The space behind a renamed name is blank. -/
lemma allBlank_onSpace {name space : List Char} (h : AllBlank space) :
    AllBlank (r.onSpace name space) := by
  unfold onSpace
  split
  · intro c hc
    cases hc
  · exact h

/-- A word that is followed by a word is not called. -/
lemma noCall_two_words {before : Option Char} {word gap next : List Char} (hword : AllWord word)
    (hne : gap ≠ []) (hgap : AllBlank gap) (hnext : isWordSide next.head? = true) :
    r.NoCall before (word ++ (gap ++ next)) := by
  rw [noCall_iff]
  intro hbefore space rest hspace heq
  obtain ⟨-, heq⟩ := run_unique heq hword (notStarting_isWord_of_allBlank hne hgap next) r.old_word
    (notStarting_isWord_space hspace rest)
  obtain ⟨-, rfl⟩ := run_unique heq hgap (notStarting_isBlank_of_isWordSide hnext) hspace
    (notStarting_isBlank_parenthesis rest)
  have hparen : isWord '(' = true := hnext
  exact absurd hparen (by decide)

/-- A name in front of a parenthesis is renamed if it is the old name. -/
lemma apply_name_append {before : Option Char} (hbefore : isWordSide before = false)
    {name space : List Char} (hname : AllWord name) (hspace : AllBlank space) (rest : List Char) :
    r.apply before (name ++ (space ++ '(' :: rest)) =
      r.onName name ++ (r.onSpace name space ++ '(' :: r.apply (some '(') rest) := by
  unfold onName onSpace
  by_cases h : name = r.old
  · subst h
    rw [if_pos rfl, if_pos rfl, r.apply_call hbefore hspace]
    rfl
  · have hno : r.NoCall before (name ++ (space ++ '(' :: rest)) := by
      rw [noCall_iff]
      intro _ space' rest' hspace' heq
      exact h (run_unique heq hname (notStarting_isWord_space hspace rest) r.old_word
        (notStarting_isWord_space hspace' rest')).1
    rw [if_neg h, if_neg h, r.apply_word_append hname hno, r.apply_blank_append _ hspace,
      r.apply_cons_of_not_word (by decide)]

/-- A head keeps its form, and is renamed apart from what follows it. -/
lemma apply_head_append (before : Option Char) {head : Head} {gap space : List Char}
    (hhead : IsHead head gap space) (rest : List Char) :
    r.apply before (head.source ++ rest) =
      head.returnType.toList ++ (gap ++ (r.onName head.name ++
        (r.onSpace head.name space ++ '(' :: r.apply (some '(') rest))) := by
  have htype := allWord_of_mem_returnTypes hhead.returnType_mem
  have hnext : isWordSide (head.name ++ (space ++ '(' :: rest)).head? = true :=
    isWordSide_head?_append hhead.name_ne_nil hhead.name_word _
  rw [hhead.source_append, r.apply_word_append htype.2
    (r.noCall_two_words htype.2 hhead.gap_ne_nil hhead.gap_blank hnext),
    r.apply_blank_append _ hhead.gap_blank, r.apply_name_append
    (isWordSide_lastOf_of_allBlank hhead.gap_ne_nil hhead.gap_blank) hhead.name_word
    hhead.space_blank]

/-- A renamed head is a head. -/
lemma isHead_onHead {head : Head} {gap space : List Char} (hhead : IsHead head gap space) :
    IsHead (r.onHead head) gap (r.onSpace head.name space) where
  returnType_mem := hhead.returnType_mem
  gap_ne_nil := hhead.gap_ne_nil
  gap_blank := hhead.gap_blank
  name_ne_nil := r.onName_ne_nil hhead.name_ne_nil
  name_word := r.allWord_onName hhead.name_word
  space_blank := r.allBlank_onSpace hhead.space_blank
  source_eq := by
    have h := r.apply_head_append none hhead []
    rw [List.append_nil, apply_nil] at h
    exact h

/-- The head of a text and what follows it are renamed apart. -/
lemma apply_source_append (before : Option Char) {head : Head} {gap space : List Char}
    (hhead : IsHead head gap space) (rest : List Char) :
    r.apply before (head.source ++ rest) =
      (r.onHead head).source ++ r.apply (some '(') rest := by
  rw [r.apply_head_append before hhead, (r.isHead_onHead hhead).source_append]
  rfl

/-- A head at the front of the renamed text comes from a head at the front of the text. -/
lemma exists_isHead_of_apply {before : Option Char} {text rest' : List Char} {head' : Head}
    {gap space' : List Char} (hhead' : IsHead head' gap space')
    (h : r.apply before text = head'.source ++ rest') :
    ∃ head space rest, IsHead head gap space ∧ text = head.source ++ rest := by
  have htype := allWord_of_mem_returnTypes hhead'.returnType_mem
  have hgap := notStarting_isWord_of_allBlank hhead'.gap_ne_nil hhead'.gap_blank
  rw [hhead'.source_append] at h
  rcases r.eq_word_append_of_apply htype.2 (hgap _) h with
    ⟨-, -, space, rest, -, -, hrest⟩ | ⟨afterType, rfl, hafterType⟩
  · -- a call has no gap behind its name
    exact absurd hrest (gap_append_ne_parenthesis hhead'.gap_ne_nil hhead'.gap_blank _ _)
  · obtain ⟨afterGap, rfl, hafterGap⟩ := r.eq_blank_append_of_apply hhead'.gap_blank
      (notStarting_isBlank_of_allWord hhead'.name_ne_nil hhead'.name_word _) hafterType.symm
    rcases r.eq_word_append_of_apply hhead'.name_word
        (notStarting_isWord_space hhead'.space_blank _) hafterGap.symm with
      ⟨-, -, space, rest, hspace, rfl, -⟩ | ⟨afterName, rfl, hafterName⟩
    · refine ⟨⟨head'.returnType, r.old, head'.returnType.toList ++ (gap ++ (r.old ++
        (space ++ ['('])))⟩, space, rest, ⟨hhead'.returnType_mem, hhead'.gap_ne_nil,
        hhead'.gap_blank, r.old_ne_nil, r.old_word, hspace, rfl⟩, ?_⟩
      simp
    · obtain ⟨afterSpace, rfl, hafterSpace⟩ := r.eq_blank_append_of_apply hhead'.space_blank
        (notStarting_isBlank_parenthesis _) hafterName.symm
      obtain ⟨rest, rfl, -⟩ := r.eq_cons_of_apply (by decide) hafterSpace.symm
      exact ⟨head', space', rest, hhead', (hhead'.source_append rest).symm⟩

/-- The renamed text has the renamed heads. -/
theorem head?_apply (before : Option Char) (text : List Char) :
    head? before (r.apply before text) = (head? before text).map r.onHead := by
  cases hhead : head? before text with
  | some head =>
    obtain ⟨hbefore, gap, space, rest, his, rfl⟩ := head?_eq_some_iff.mp hhead
    exact head?_eq_some_iff.mpr ⟨hbefore, gap, _, _, r.isHead_onHead his,
      r.apply_source_append before his rest⟩
  | none =>
    cases hhead' : head? before (r.apply before text) with
    | none => rfl
    | some head' =>
      obtain ⟨hbefore, gap, space', rest', his', heq⟩ := head?_eq_some_iff.mp hhead'
      obtain ⟨head, space, rest, his, htext⟩ := r.exists_isHead_of_apply his' heq
      rw [head?_eq_some_iff.mpr ⟨hbefore, gap, space, rest, his, htext⟩] at hhead
      cases hhead

end Renaming

end ShaderLoom.Helper
