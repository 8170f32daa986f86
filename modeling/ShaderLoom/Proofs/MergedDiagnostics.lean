import Mathlib.Data.List.Induction
import Mathlib.Data.List.Nodup
import ShaderLoom.Diagnostics.Journal
import ShaderLoom.Proofs.Tables

/-!
# What merged diagnostics keep

Several diagnostics of a journal are filled by warnings, errors and merges, in any order.  An error
counts for the diagnostics in which it was kept and for all that took them over later, directly or
through others.  Warnings stand in the order in which they arrived.  A warning is kept once, however
often it is given; but a merge takes over the warnings of other diagnostics as they are, so a
warning stands twice exactly when a merge brought one that was there before.
-/

namespace ShaderLoom

/-! ### Lists without their repetitions -/

section Repetitions

variable {α : Type} [DecidableEq α]

/-- Repetitions can be left out before or after a selection. -/
lemma eraseDups_filter (p : α → Bool) (items : List α) :
    (items.filter p).eraseDups = items.eraseDups.filter p := by
  induction items using List.reverseRecOn with
  | nil => rfl
  | append_singleton items item ih =>
    rw [List.filter_append, eraseDups_concat]
    by_cases hp : p item = true
    · rw [List.filter_cons_of_pos hp, List.filter_nil, eraseDups_concat, ih]
      by_cases hmem : item ∈ items
      · rw [if_pos hmem, if_pos (List.mem_filter.mpr ⟨hmem, hp⟩)]
      · rw [if_neg hmem, if_neg fun h => hmem (List.mem_filter.mp h).1, List.filter_append,
          List.filter_cons_of_pos hp, List.filter_nil]
    · rw [List.filter_cons_of_neg hp, List.filter_nil, List.append_nil, ih]
      split
      · rfl
      · rw [List.filter_append, List.filter_cons_of_neg hp, List.filter_nil, List.append_nil]

/-- Of two lists, one behind the other, the second keeps what is not in the first. -/
lemma eraseDups_append_eq (items others : List α) :
    (items ++ others).eraseDups =
      items.eraseDups ++ others.eraseDups.filter fun item => !items.contains item := by
  rw [List.eraseDups_append]
  unfold List.removeAll
  rw [eraseDups_filter]

/-- Without repetitions, lists that are put together depend on their parts without repetitions. -/
lemma eraseDups_append_congr {items items' others others' : List α}
    (h : items.eraseDups = items'.eraseDups) (h' : others.eraseDups = others'.eraseDups) :
    (items ++ others).eraseDups = (items' ++ others').eraseDups := by
  have hmem : ∀ item, items.contains item = items'.contains item := by
    intro item
    rw [Bool.eq_iff_iff, List.contains_iff_mem, List.contains_iff_mem, ← List.mem_eraseDups, h,
      List.mem_eraseDups]
  rw [eraseDups_append_eq, eraseDups_append_eq, h, h']
  simp only [hmem]

/-- Nothing is left out exactly where nothing is repeated. -/
lemma eraseDups_eq_self_iff {items : List α} : items.eraseDups = items ↔ items.Nodup := by
  constructor
  · intro h
    rw [← h]
    exact nodup_eraseDups items
  · intro h
    induction items using List.reverseRecOn with
    | nil => rfl
    | append_singleton items item ih =>
      rw [← List.concat_eq_append, List.nodup_concat] at h
      rw [eraseDups_concat, if_neg h.1, ih h.2]

end Repetitions

/-! ### One more warning -/

namespace Diagnostics

variable {kept : Diagnostics} {message : String}

@[simp] lemma errors_warn : (kept.warn message).1.errors = kept.errors := by
  unfold warn
  split
  · rfl
  · rfl

/-- A warning is kept once. -/
lemma warnings_warn : (kept.warn message).1.warnings =
    if warningEntry message ∈ kept.warnings then kept.warnings
    else kept.warnings ++ [warningEntry message] := by
  unfold warn
  simp only [List.contains_iff_mem]
  split
  · rfl
  · rfl

/-- After a warning there are the old ones and the new one. -/
lemma mem_warnings_warn_iff {text : String} : text ∈ (kept.warn message).1.warnings ↔
    text ∈ kept.warnings ∨ text = warningEntry message := by
  rw [warnings_warn]
  split
  · next h =>
    refine ⟨Or.inl, ?_⟩
    rintro (hold | rfl)
    · exact hold
    · exact h
  · rw [List.mem_append, List.mem_singleton]

/-- A warning causes no repetition. -/
lemma nodup_warnings_warn_iff : (kept.warn message).1.warnings.Nodup ↔ kept.warnings.Nodup := by
  rw [warnings_warn]
  split
  · rfl
  · next h => rw [← List.concat_eq_append, List.nodup_concat, and_iff_right h]

/-- Repetitions apart, a warning comes last. -/
lemma eraseDups_warnings_warn : (kept.warn message).1.warnings.eraseDups =
    (kept.warnings ++ [warningEntry message]).eraseDups := by
  rw [warnings_warn]
  split
  · next h => rw [eraseDups_concat, if_pos h]
  · rfl

end Diagnostics

namespace Journal

/-! ### Histories -/

/-- An entry into the diagnostics of the given name. -/
structure Step where
  name : String
  entry : Entry

/-- The journal in which nothing was kept yet. -/
def blank (level : Level) : Journal := ⟨level, Table.empty⟩

/-- The journal after several entries. -/
def recordAll (journal : Journal) (steps : List Step) : Journal :=
  steps.foldl (fun journal step => (journal.record step.name step.entry).1) journal

/-- An entry that satisfies `p` was made under the name, or under another name that was taken over
later.  What satisfies `p` may depend on the entries before. -/
inductive Happened (p : List Step → Step → Prop) : List Step → String → Prop where
  | made {before after : List Step} {step : Step} (h : p before step) :
    Happened p (before ++ step :: after) step.name
  | merged {before after : List Step} {name other : String} (h : Happened p before other) :
    Happened p (before ++ ⟨name, .extend other⟩ :: after) name

/-- The entry is an error. -/
def IsError (_ : List Step) (step : Step) : Prop := ∃ message, step.entry = .error message

/-- The entry is the warning. -/
def Warns (message : String) (_ : List Step) (step : Step) : Prop := step.entry = .warn message

/-- The entry takes over a warning that is there already. -/
def Overlaps (before : List Step) (step : Step) : Prop :=
  ∃ other message, step.entry = .extend other ∧ Happened (Warns message) before step.name ∧
    Happened (Warns message) before other

/-- What one entry adds to the warnings that have arrived under all names, repetitions included. -/
def arrive (arrived : String → List String) (step : Step) : String → List String :=
  Function.update arrived step.name (arrived step.name ++ match step.entry with
    | .warn message => [Diagnostics.warningEntry message]
    | .extend other => arrived other
    | _ => [])

/-- The warnings that have arrived under a name, given there or taken over, one behind the other. -/
def arrivals (steps : List Step) : String → List String := steps.foldl arrive fun _ => []

/-! ### One more entry -/

variable {p : List Step → Step → Prop} {steps : List Step} {step : Step} {name : String}

lemma not_happened_nil : ¬Happened p [] name := by
  generalize hsteps : ([] : List Step) = steps
  intro h
  cases h with
  | made => simp at hsteps
  | merged => simp at hsteps

/-- A place in a list with one more item at its end is the last one, or a place of the list. -/
lemma split_concat_cases {before after : List Step} {other : Step}
    (h : before ++ other :: after = steps ++ [step]) :
    (before = steps ∧ other = step) ∨ ∃ rest, steps = before ++ other :: rest := by
  rcases List.eq_nil_or_concat after with rfl | ⟨rest, last, rfl⟩
  · obtain ⟨hbefore, hother⟩ := List.append_singleton_inj.mp h
    exact Or.inl ⟨hbefore, hother⟩
  · have hconcat : before ++ other :: rest ++ [last] = steps ++ [step] := by simpa using h
    exact Or.inr ⟨rest, (List.append_singleton_inj.mp hconcat).1.symm⟩

/-- What has happened is not undone by later entries. -/
lemma Happened.append (h : Happened p steps name) (more : List Step) :
    Happened p (steps ++ more) name := by
  cases h with
  | made h =>
    rw [List.append_assoc, List.cons_append]
    exact .made h
  | merged h =>
    rw [List.append_assoc, List.cons_append]
    exact .merged h

/-- What happened under a name happened there before the last entry, or the last entry brought
it. -/
lemma happened_concat_iff : Happened p (steps ++ [step]) name ↔
    Happened p steps name ∨ step.name = name ∧
      (p steps step ∨ ∃ other, step.entry = .extend other ∧ Happened p steps other) := by
  constructor
  · generalize hall : steps ++ [step] = all
    intro h
    cases h with
    | made h =>
      rcases split_concat_cases hall.symm with ⟨rfl, rfl⟩ | ⟨rest, rfl⟩
      · exact Or.inr ⟨rfl, Or.inl h⟩
      · exact Or.inl (.made h)
    | merged h =>
      rcases split_concat_cases hall.symm with ⟨rfl, rfl⟩ | ⟨rest, rfl⟩
      · exact Or.inr ⟨rfl, Or.inr ⟨_, rfl, h⟩⟩
      · exact Or.inl (.merged h)
  · rintro (h | ⟨rfl, h | ⟨other, hentry, h⟩⟩)
    · exact h.append [step]
    · exact .made h
    · obtain ⟨name, entry⟩ := step
      cases hentry
      exact .merged h

lemma arrivals_concat : arrivals (steps ++ [step]) = arrive (arrivals steps) step :=
  List.foldl_concat ..

lemma recordAll_concat (journal : Journal) : journal.recordAll (steps ++ [step]) =
    ((journal.recordAll steps).record step.name step.entry).1 :=
  List.foldl_concat ..

/-- The diagnostics of a name after an entry under it. -/
def entered (journal : Journal) (name : String) : Entry → Diagnostics
  | .warn message => ((journal.book name).warn message).1
  | .error message => ((journal.book name).error message).1
  | .extend other => (journal.book name).extend (journal.book other)
  | .summary _ => journal.book name
  | .level _ => journal.book name

/-- An entry changes the diagnostics of its name alone. -/
lemma book_record (journal : Journal) (name own : String) (entry : Entry) :
    (journal.record own entry).1.book name =
      if own = name then journal.entered own entry else journal.book name := by
  have hkeep : ∀ kept : Diagnostics × List LogLine, (record.keep journal own kept).1.book name =
      if own = name then kept.1 else journal.book name := by
    intro kept
    unfold book record.keep
    rw [Table.find?_insert]
    split
    · rfl
    · rfl
  cases entry with
  | warn message => exact hkeep _
  | error message => exact hkeep _
  | extend other => exact hkeep _
  | summary level => exact hkeep _
  | level level =>
    split
    · next h =>
      rw [← h]
      rfl
    · rfl

/-! ### What every entry leaves -/

section Entered

variable {journal : Journal} {own : String} {entry : Entry}

/-- There are errors after an entry if there were some, or if it brings one. -/
lemma errors_entered_ne_nil_iff : (journal.entered own entry).errors ≠ [] ↔
    (journal.book own).errors ≠ [] ∨ (∃ message, entry = .error message) ∨
      ∃ other, entry = .extend other ∧ (journal.book other).errors ≠ [] := by
  cases entry with
  | warn message => simp [entered]
  | error message => simp [entered, Diagnostics.error]
  | extend other => simp [entered, Diagnostics.extend, imp_iff_not_or]
  | summary level => simp [entered]
  | level level => simp [entered]

/-- The warnings after an entry are the old ones and those that it brings. -/
lemma mem_warnings_entered_iff {text : String} : text ∈ (journal.entered own entry).warnings ↔
    text ∈ (journal.book own).warnings ∨
      (∃ message, entry = .warn message ∧ text = Diagnostics.warningEntry message) ∨
      ∃ other, entry = .extend other ∧ text ∈ (journal.book other).warnings := by
  cases entry with
  | warn message => simp [entered, Diagnostics.mem_warnings_warn_iff]
  | error message => simp [entered, Diagnostics.error]
  | extend other => simp [entered, Diagnostics.extend]
  | summary level => simp [entered]
  | level level => simp [entered]

/-- Warnings are repeated after an entry if they were, or if it takes over known ones. -/
lemma not_nodup_entered_iff : ¬(journal.entered own entry).warnings.Nodup ↔
    ¬(journal.book own).warnings.Nodup ∨
      (∃ other text, entry = .extend other ∧ text ∈ (journal.book own).warnings ∧
        text ∈ (journal.book other).warnings) ∨
      ∃ other, entry = .extend other ∧ ¬(journal.book other).warnings.Nodup := by
  cases entry with
  | warn message => simp [entered, Diagnostics.nodup_warnings_warn_iff]
  | error message => simp [entered, Diagnostics.error]
  | extend other =>
    have hshared : ¬(journal.book own).warnings.Disjoint (journal.book other).warnings ↔
        ∃ text ∈ (journal.book own).warnings, text ∈ (journal.book other).warnings := by
      simp [List.disjoint_left]
    simp only [entered, Diagnostics.extend, List.nodup_append', not_and_or, hshared,
      Entry.extend.injEq, exists_and_left, exists_eq_left']
    rw [or_comm (a := ¬(journal.book other).warnings.Nodup)]
  | summary level => simp [entered]
  | level level => simp [entered]

end Entered

/-! ### Whole histories -/

variable {level : Level}

/-- What every entry passes on by a merge, and else only entries with `p` bring, has come about
exactly when such an entry happened. -/
lemma holds_iff_happened {Q : Diagnostics → Prop} (hempty : ¬Q Diagnostics.empty)
    (hstep : ∀ before step, Q (((blank level).recordAll before).entered step.name step.entry) ↔
      Q (((blank level).recordAll before).book step.name) ∨ p before step ∨
        ∃ other, step.entry = .extend other ∧ Q (((blank level).recordAll before).book other)) :
    Q (((blank level).recordAll steps).book name) ↔ Happened p steps name := by
  induction steps using List.reverseRecOn generalizing name with
  | nil => exact iff_of_false hempty not_happened_nil
  | append_singleton steps step ih =>
    rw [recordAll_concat, book_record, happened_concat_iff]
    split
    · next h =>
      rw [hstep]
      simp only [ih, h, true_and]
    · next h =>
      rw [ih]
      simp only [h, false_and, or_false]

/-- There are errors exactly where one has happened. -/
lemma errors_ne_nil_iff :
    (((blank level).recordAll steps).book name).errors ≠ [] ↔ Happened IsError steps name :=
  holds_iff_happened (Q := fun kept => kept.errors ≠ []) (fun h => h rfl)
    fun _ _ => errors_entered_ne_nil_iff

/-- There is a warning exactly where it has happened. -/
lemma mem_warnings_iff {message : String} :
    Diagnostics.warningEntry message ∈ (((blank level).recordAll steps).book name).warnings ↔
      Happened (Warns message) steps name := by
  refine holds_iff_happened (Q := fun kept => Diagnostics.warningEntry message ∈ kept.warnings)
    List.not_mem_nil fun before step => ?_
  rw [mem_warnings_entered_iff]
  unfold Warns Diagnostics.warningEntry
  simp only [String.append_right_inj, exists_eq_right']

/-- All that is kept as a warning was given as one. -/
lemma exists_of_mem_warnings {text : String}
    (h : text ∈ (((blank level).recordAll steps).book name).warnings) :
    ∃ message, text = Diagnostics.warningEntry message := by
  induction steps using List.reverseRecOn generalizing name with
  | nil => exact absurd h List.not_mem_nil
  | append_singleton steps step ih =>
    rw [recordAll_concat, book_record] at h
    split at h
    · rcases mem_warnings_entered_iff.mp h with h | ⟨message, -, h⟩ | ⟨other, -, h⟩
      · exact ih h
      · exact ⟨message, h⟩
      · exact ih h
    · exact ih h

/-- Warnings are repeated exactly where an entry has taken over known ones. -/
lemma not_nodup_warnings_iff : ¬(((blank level).recordAll steps).book name).warnings.Nodup ↔
    Happened Overlaps steps name := by
  refine holds_iff_happened (Q := fun kept => ¬kept.warnings.Nodup) (fun h => h List.nodup_nil)
    fun before step => ?_
  rw [not_nodup_entered_iff]
  refine or_congr_right (or_congr_left ⟨?_, ?_⟩)
  · rintro ⟨other, text, hentry, hown, hother⟩
    obtain ⟨message, rfl⟩ := exists_of_mem_warnings hown
    exact ⟨other, message, hentry, mem_warnings_iff.mp hown, mem_warnings_iff.mp hother⟩
  · rintro ⟨other, message, hentry, hown, hother⟩
    exact ⟨other, _, hentry, mem_warnings_iff.mpr hown, mem_warnings_iff.mpr hother⟩

/-- Repetitions apart, the warnings are those that have arrived, in their order. -/
lemma eraseDups_warnings : (((blank level).recordAll steps).book name).warnings.eraseDups =
    (arrivals steps name).eraseDups := by
  induction steps using List.reverseRecOn generalizing name with
  | nil => rfl
  | append_singleton steps step ih =>
    rw [recordAll_concat, book_record, arrivals_concat, arrive]
    split
    · next h =>
      subst h
      rw [Function.update_self]
      obtain ⟨own, entry⟩ := step
      cases entry with
      | warn message =>
        exact Diagnostics.eraseDups_warnings_warn.trans (eraseDups_append_congr ih rfl)
      | extend other => exact eraseDups_append_congr ih ih
      | error message =>
        rw [List.append_nil]
        exact ih
      | summary level =>
        rw [List.append_nil]
        exact ih
      | level level =>
        rw [List.append_nil]
        exact ih
    · next h => rw [Function.update_of_ne (Ne.symm h), ih]

/-! ### What is kept -/

/-- What diagnostics keep that were filled by the given entries. -/
structure Keeps (steps : List Step) (name : String) (kept : Diagnostics) : Prop where
  /-- They are in order unless an error was kept there, or in others that were taken over later. -/
  ok_iff : kept.ok = true ↔ ¬Happened IsError steps name
  /-- The warnings stand in the order in which they arrived first. -/
  firsts : kept.warnings.eraseDups = (arrivals steps name).eraseDups
  /-- No warning stands twice, unless a merge took over one that was there. -/
  nodup_iff : kept.warnings.Nodup ↔ ¬Happened Overlaps steps name
  /-- Then the warnings are what arrived, without the repetitions. -/
  eq_arrivals_iff : kept.warnings = (arrivals steps name).eraseDups ↔ ¬Happened Overlaps steps name

/-- Whatever was entered into a journal, and in whatever order, its diagnostics keep it in this
way. -/
theorem keeps_recordAll (level : Level) (steps : List Step) (name : String) :
    Keeps steps name (((blank level).recordAll steps).book name) where
  ok_iff := by
    rw [Diagnostics.ok, List.isEmpty_iff]
    exact (not_iff_comm.mp errors_ne_nil_iff).symm
  firsts := eraseDups_warnings
  nodup_iff := (not_iff_comm.mp not_nodup_warnings_iff).symm
  eq_arrivals_iff := by
    rw [← eraseDups_warnings, eq_comm, eraseDups_eq_self_iff]
    exact (not_iff_comm.mp not_nodup_warnings_iff).symm

example : (((blank .debug).recordAll
    [⟨"a", .warn "x"⟩, ⟨"b", .warn "x"⟩, ⟨"a", .extend "b"⟩]).book "a").warnings =
      ["[WARNING] x", "[WARNING] x"] := by decide

end Journal

end ShaderLoom
