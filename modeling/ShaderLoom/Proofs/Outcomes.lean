import Mathlib.Data.List.Basic
import ShaderLoom.Traced

/-!
# Outcomes of computations

How the outcome of a computation is put together from the outcomes of its parts.  Remarks do not
influence outcomes, so the outcome of a traced computation is a computation that may fail and
nothing else.  A list of computations succeeds exactly when all of them do, and fails with the
fault of one of them.
-/

namespace ShaderLoom

/-! ### Computations that may fail -/

section Results

variable {ε α β γ : Type}

lemma ok_bind (a : α) (next : α → Except ε β) : ((Except.ok a : Except ε α) >>= next) = next a :=
  rfl

/-- A computation followed by another succeeds exactly when both do. -/
lemma bind_eq_ok_iff {first : Except ε α} {next : α → Except ε β} {b : β} :
    (first >>= next) = .ok b ↔ ∃ a, first = .ok a ∧ next a = .ok b := by
  cases first with
  | error e =>
    constructor
    · intro h
      cases h
    · rintro ⟨a, h, -⟩
      cases h
  | ok a =>
    constructor
    · intro h
      exact ⟨a, rfl, h⟩
    · rintro ⟨a', h, h'⟩
      cases h
      exact h'

/-- A computation followed by another fails with a fault of the first or of the second. -/
lemma bind_eq_error_iff {first : Except ε α} {next : α → Except ε β} {e : ε} :
    (first >>= next) = .error e ↔ first = .error e ∨ ∃ a, first = .ok a ∧ next a = .error e := by
  cases first with
  | error e' =>
    constructor
    · intro h
      cases h
      exact Or.inl rfl
    · rintro (h | ⟨a, h, -⟩)
      · cases h
        rfl
      · cases h
  | ok a =>
    constructor
    · intro h
      exact Or.inr ⟨a, rfl, h⟩
    · rintro (h | ⟨a', h, h'⟩)
      · cases h
      · cases h
        exact h'

/-- A computation either succeeds or fails. -/
lemma eq_ok_or_eq_error (result : Except ε α) :
    (∃ a, result = .ok a) ∨ ∃ e, result = .error e := by
  cases result with
  | ok a => exact Or.inl ⟨a, rfl⟩
  | error e => exact Or.inr ⟨e, rfl⟩

/-- A computation that has a result yields it. -/
lemma eq_ok_of_isSome_toOption {result : Except ε α} (default : α)
    (h : result.toOption.isSome = true) : result = .ok (result.toOption.getD default) := by
  cases result with
  | ok a => rfl
  | error e => cases h

/-- A computation yields the result that is read off it. -/
lemma eq_ok_of_toOption_eq_some {result : Except ε α} {a : α} (h : result.toOption = some a) :
    result = .ok a := by
  cases result with
  | ok b => exact congrArg Except.ok (Option.some.inj h)
  | error e => cases h

/-- When every item succeeds, the list of computations yields the list of their results. -/
lemma mapM_eq_ok_map {f : α → Except ε β} {g : α → β} {items : List α}
    (h : ∀ item ∈ items, f item = .ok (g item)) : items.mapM f = .ok (items.map g) := by
  induction items with
  | nil => rfl
  | cons item rest ih =>
    have hrest : rest.mapM f = .ok (rest.map g) :=
      ih fun other hother => h other (List.mem_cons_of_mem item hother)
    rw [List.mapM_cons, h item List.mem_cons_self, hrest]
    rfl

/-- When a list of computations succeeds, every one of them does. -/
lemma exists_ok_of_mapM_eq_ok {f : α → Except ε β} {items : List α} {results : List β}
    (h : items.mapM f = .ok results) {item : α} (hitem : item ∈ items) :
    ∃ b ∈ results, f item = .ok b := by
  induction items generalizing results with
  | nil => cases hitem
  | cons first rest ih =>
    rw [List.mapM_cons, bind_eq_ok_iff] at h
    obtain ⟨b, hb, h⟩ := h
    obtain ⟨others, hothers, h⟩ := bind_eq_ok_iff.mp h
    cases h
    rcases List.mem_cons.mp hitem with rfl | hmem
    · exact ⟨b, List.mem_cons_self, hb⟩
    · obtain ⟨c, hc, hfc⟩ := ih hothers hmem
      exact ⟨c, List.mem_cons_of_mem b hc, hfc⟩

/-- The results of a list of computations stand in the order of its items. -/
lemma forall₂_of_mapM_eq_ok {f : α → Except ε β} {items : List α} {results : List β}
    (h : items.mapM f = .ok results) :
    List.Forall₂ (fun item result => f item = .ok result) items results := by
  induction items generalizing results with
  | nil =>
    cases h
    exact .nil
  | cons first rest ih =>
    rw [List.mapM_cons, bind_eq_ok_iff] at h
    obtain ⟨b, hb, h⟩ := h
    obtain ⟨others, hothers, h⟩ := bind_eq_ok_iff.mp h
    cases h
    exact .cons hb (ih hothers)

/-- The results of a list of computations are the results of its items. -/
lemma mem_iff_of_mapM_eq_ok {f : α → Except ε β} {items : List α} {results : List β}
    (h : items.mapM f = .ok results) {b : β} : b ∈ results ↔ ∃ item ∈ items, f item = .ok b := by
  induction items generalizing results with
  | nil =>
    cases h
    simp
  | cons first rest ih =>
    rw [List.mapM_cons, bind_eq_ok_iff] at h
    obtain ⟨c, hc, h⟩ := h
    obtain ⟨others, hothers, h⟩ := bind_eq_ok_iff.mp h
    cases h
    rw [List.mem_cons, ih hothers, List.exists_mem_cons_iff, hc]
    refine or_congr_left ?_
    rw [Except.ok.injEq, eq_comm]

/-- When a list of computations fails, its fault is that of one of them. -/
lemma exists_error_of_mapM_eq_error {f : α → Except ε β} {items : List α} {e : ε}
    (h : items.mapM f = .error e) : ∃ item ∈ items, f item = .error e := by
  induction items with
  | nil => cases h
  | cons first rest ih =>
    rw [List.mapM_cons, bind_eq_error_iff] at h
    rcases h with h | ⟨b, -, h⟩
    · exact ⟨first, List.mem_cons_self, h⟩
    · rcases bind_eq_error_iff.mp h with h | ⟨bs, -, h⟩
      · obtain ⟨item, hitem, hfault⟩ := ih h
        exact ⟨item, List.mem_cons_of_mem first hitem, hfault⟩
      · cases h

/-- The items before the one that a result comes from are those that the results before it come
from. -/
lemma exists_split_of_mapM_eq_ok {f : α → Except ε β} {items : List α} {before after : List β}
    {b : β} (h : items.mapM f = .ok (before ++ b :: after)) :
    ∃ first item rest, items = first ++ item :: rest ∧ first.mapM f = .ok before ∧
      f item = .ok b := by
  induction before generalizing items with
  | nil =>
    cases items with
    | nil => cases h
    | cons item rest =>
      rw [List.mapM_cons] at h
      obtain ⟨c, hc, h⟩ := bind_eq_ok_iff.mp h
      obtain ⟨others, -, h⟩ := bind_eq_ok_iff.mp h
      cases h
      exact ⟨[], item, rest, rfl, rfl, hc⟩
  | cons c before ih =>
    cases items with
    | nil => cases h
    | cons item rest =>
      rw [List.mapM_cons] at h
      obtain ⟨c', hc, h⟩ := bind_eq_ok_iff.mp h
      obtain ⟨others, hothers, h⟩ := bind_eq_ok_iff.mp h
      cases h
      obtain ⟨first, middle, last, rfl, hfirst, hmiddle⟩ := ih hothers
      refine ⟨item :: first, middle, last, rfl, ?_, hmiddle⟩
      rw [List.mapM_cons, hc, hfirst]
      rfl

/-- When every item succeeds, so does the list of computations. -/
lemma exists_mapM_eq_ok {f : α → Except ε β} {items : List α}
    (h : ∀ item ∈ items, ∃ b, f item = .ok b) : ∃ results, items.mapM f = .ok results := by
  rcases eq_ok_or_eq_error (items.mapM f) with hok | ⟨e, herror⟩
  · exact hok
  · obtain ⟨item, hitem, hfault⟩ := exists_error_of_mapM_eq_error herror
    obtain ⟨b, hb⟩ := h item hitem
    rw [hb] at hfault
    cases hfault

/-- If every item succeeds for one reason or fails for another, the list succeeds for the first
reason everywhere or fails for the second somewhere. -/
lemma mapM_cases {f : α → Except ε β} {P : α → Prop} {Q : ε → α → Prop} {items : List α}
    (h : ∀ item ∈ items,
      (P item ∧ ∃ b, f item = .ok b) ∨ ∃ e, Q e item ∧ f item = .error e) :
    ((∀ item ∈ items, P item) ∧ ∃ results, items.mapM f = .ok results) ∨
      ∃ e, (∃ item ∈ items, Q e item) ∧ items.mapM f = .error e := by
  rcases eq_ok_or_eq_error (items.mapM f) with ⟨results, hok⟩ | ⟨e, herror⟩
  · refine Or.inl ⟨fun item hitem => ?_, results, hok⟩
    obtain ⟨b, -, hb⟩ := exists_ok_of_mapM_eq_ok hok hitem
    rcases h item hitem with ⟨hP, -⟩ | ⟨e, -, he⟩
    · exact hP
    · rw [hb] at he
      cases he
  · obtain ⟨item, hitem, hfault⟩ := exists_error_of_mapM_eq_error herror
    rcases h item hitem with ⟨-, b, hb⟩ | ⟨e', hQ, he'⟩
    · rw [hb] at hfault
      cases hfault
    · rw [he'] at hfault
      cases hfault
      exact Or.inr ⟨e, ⟨item, hitem, hQ⟩, herror⟩

/-- A fold whose steps all succeed is the fold of their results. -/
lemma foldlM_eq_ok_foldl {f : β → α → Except ε β} {g : β → α → β} {items : List α}
    (h : ∀ b, ∀ item ∈ items, f b item = .ok (g b item)) (start : β) :
    items.foldlM f start = .ok (items.foldl g start) := by
  induction items generalizing start with
  | nil => rfl
  | cons item rest ih =>
    rw [List.foldlM_cons, h start item List.mem_cons_self]
    exact ih (fun b other hother => h b other (List.mem_cons_of_mem item hother)) (g start item)

/-- The last item of a fold is met by the result for the others. -/
lemma foldlM_concat {f : β → α → Except ε β} (items : List α) (item : α) (start : β) :
    (items ++ [item]).foldlM f start = items.foldlM f start >>= fun b => f b item := by
  rw [List.foldlM_append]
  refine bind_congr fun b => ?_
  rw [List.foldlM_cons]
  exact bind_pure _

/-- A fold fails with a fault of one of its steps. -/
lemma exists_error_of_foldlM_eq_error {f : β → α → Except ε β} {items : List α} {start : β} {e : ε}
    (h : items.foldlM f start = .error e) : ∃ item ∈ items, ∃ b, f b item = .error e := by
  induction items generalizing start with
  | nil => cases h
  | cons item rest ih =>
    rw [List.foldlM_cons] at h
    rcases bind_eq_error_iff.mp h with h | ⟨b, -, h⟩
    · exact ⟨item, List.mem_cons_self, start, h⟩
    · obtain ⟨other, hother, hfault⟩ := ih h
      exact ⟨other, List.mem_cons_of_mem item hother, hfault⟩

/-- A fold whose steps all succeed does so itself. -/
lemma exists_foldlM_eq_ok {f : β → α → Except ε β} {items : List α}
    (h : ∀ b, ∀ item ∈ items, ∃ b', f b item = .ok b') (start : β) :
    ∃ result, items.foldlM f start = .ok result := by
  rcases eq_ok_or_eq_error (items.foldlM f start) with hok | ⟨e, herror⟩
  · exact hok
  · obtain ⟨item, hitem, b, hfault⟩ := exists_error_of_foldlM_eq_error herror
    obtain ⟨b', hb'⟩ := h b item hitem
    rw [hb'] at hfault
    cases hfault

/-- When a fold succeeds, every item was met by a step that succeeded. -/
lemma exists_ok_of_foldlM_eq_ok {f : β → α → Except ε β} {items : List α} {start result : β}
    (h : items.foldlM f start = .ok result) {item : α} (hitem : item ∈ items) :
    ∃ b b', f b item = .ok b' := by
  induction items generalizing start with
  | nil => cases hitem
  | cons first rest ih =>
    rw [List.foldlM_cons] at h
    obtain ⟨b, hb, h⟩ := bind_eq_ok_iff.mp h
    rcases List.mem_cons.mp hitem with rfl | hmem
    · exact ⟨start, b, hb⟩
    · exact ih h hmem

/-- What every step of a fold keeps holds at its end. -/
lemma holds_of_foldlM_eq_ok {f : β → α → Except ε β} {P : β → Prop} {items : List α}
    (hstep : ∀ b b', ∀ item ∈ items, P b → f b item = .ok b' → P b') {start result : β}
    (hstart : P start) (h : items.foldlM f start = .ok result) : P result := by
  induction items generalizing start with
  | nil =>
    cases h
    exact hstart
  | cons item rest ih =>
    rw [List.foldlM_cons] at h
    obtain ⟨b, hb, h⟩ := bind_eq_ok_iff.mp h
    exact ih (fun b b' other hother => hstep b b' other (List.mem_cons_of_mem item hother))
      (hstep start b item List.mem_cons_self hstart hb) h

/-- What one step of a fold brings about, and the later steps keep, holds at its end. -/
lemma holds_of_mem_of_foldlM_eq_ok {f : β → α → Except ε β} {P : β → Prop} {items : List α}
    {item : α} (hitem : item ∈ items) (hreach : ∀ b b', f b item = .ok b' → P b')
    (hkeep : ∀ b b', ∀ other ∈ items, P b → f b other = .ok b' → P b') {start result : β}
    (h : items.foldlM f start = .ok result) : P result := by
  obtain ⟨before, after, rfl⟩ := List.append_of_mem hitem
  rw [List.foldlM_append] at h
  obtain ⟨middle, -, h⟩ := bind_eq_ok_iff.mp h
  rw [List.foldlM_cons] at h
  obtain ⟨next, hnext, h⟩ := bind_eq_ok_iff.mp h
  refine holds_of_foldlM_eq_ok (fun b b' other hother => ?_) (hreach middle next hnext) h
  exact hkeep b b' other (List.mem_append_right before (List.mem_cons_of_mem item hother))

end Results

/-! ### Traced computations -/

namespace Traced

variable {α β γ : Type}

/-- Two computations with the same outcome and the same remarks are equal. -/
lemma eq_of_outcome_of_remarks {a b : Traced α} (houtcome : a.outcome = b.outcome)
    (hremarks : a.remarks = b.remarks) : a = b := by
  cases a
  cases b
  cases houtcome
  cases hremarks
  rfl

lemma pure_bind' (a : α) (next : α → Traced β) : (pure a >>= next) = next a := by
  apply eq_of_outcome_of_remarks
  · exact outcome_bind (pure a) next
  · rw [remarks_bind_of_ok (outcome_pure a), remarks_pure, List.nil_append]

lemma bind_pure' (first : Traced α) : (first >>= pure) = first := by
  apply eq_of_outcome_of_remarks
  · rw [outcome_bind]
    cases first.outcome <;> rfl
  · cases h : first.outcome with
    | ok a => rw [remarks_bind_of_ok h, remarks_pure, List.append_nil]
    | error fault => rw [remarks_bind_of_error h]

/-- The remarks of a chain of computations are the remarks of its links in order, whichever way
the chain is put together. -/
lemma bind_assoc' (first : Traced α) (second : α → Traced β) (third : β → Traced γ) :
    (first >>= second >>= third) = (first >>= fun a => second a >>= third) := by
  have houtcome : (first >>= second >>= third).outcome =
      (first >>= fun a => second a >>= third).outcome := by
    simp only [outcome_bind]
    cases first.outcome <;> rfl
  refine eq_of_outcome_of_remarks houtcome ?_
  cases h : first.outcome with
  | error fault =>
    have h' : (first >>= second).outcome = .error fault := by rw [outcome_bind, h]; rfl
    rw [remarks_bind_of_error h', remarks_bind_of_error h, remarks_bind_of_error h]
  | ok a =>
    rw [remarks_bind_of_ok h]
    cases h' : (second a).outcome with
    | error fault =>
      have h'' : (first >>= second).outcome = .error fault := by rw [outcome_bind, h]; exact h'
      rw [remarks_bind_of_error h'', remarks_bind_of_ok h, remarks_bind_of_error h']
    | ok b =>
      have h'' : (first >>= second).outcome = .ok b := by rw [outcome_bind, h]; exact h'
      rw [remarks_bind_of_ok h'', remarks_bind_of_ok h, remarks_bind_of_ok h', List.append_assoc]

instance : LawfulMonad Traced :=
  LawfulMonad.mk' Traced bind_pure' pure_bind' bind_assoc'

@[simp] lemma outcome_fail (fault : Fault) : (fail fault : Traced α).outcome = .error fault := rfl

@[simp] lemma outcome_liftM (result : Except Fault α) :
    (liftM result : Traced α).outcome = result := rfl

@[simp] lemma outcome_map (f : α → β) (traced : Traced α) :
    (f <$> traced).outcome = f <$> traced.outcome := by
  rw [map_eq_pure_bind, map_eq_pure_bind, outcome_bind]
  rfl

/-- The outcome of a list of traced computations is that of the list of their outcomes. -/
@[simp] lemma outcome_mapM (f : α → Traced β) (items : List α) :
    (items.mapM f).outcome = items.mapM fun item => (f item).outcome := by
  induction items with
  | nil => rfl
  | cons item rest ih =>
    simp only [List.mapM_cons, outcome_bind, outcome_pure, ih]
    rfl

/-- The outcome of a traced fold is that of the fold of the outcomes of its steps. -/
@[simp] lemma outcome_foldlM (f : β → α → Traced β) (items : List α) (start : β) :
    (items.foldlM f start).outcome = items.foldlM (fun b item => (f b item).outcome) start := by
  induction items generalizing start with
  | nil => rfl
  | cons item rest ih => simp only [List.foldlM_cons, outcome_bind, ih]

@[simp] lemma outcome_inStage (stage : Stage) (traced : Traced α) :
    (traced.inStage stage).outcome = traced.outcome := rfl

/-! ### Two traced computations side by side -/

/-- The computations make the same remarks, and fail alike or end with related values. -/
def Related (R : α → β → Prop) (first : Traced α) (second : Traced β) : Prop :=
  first.remarks = second.remarks ∧
    ((∃ fault, first.outcome = .error fault ∧ second.outcome = .error fault) ∨
      ∃ a b, first.outcome = .ok a ∧ second.outcome = .ok b ∧ R a b)

/-- Related values end in related computations. -/
lemma related_pure {R : α → β → Prop} {a : α} {b : β} (h : R a b) :
    Related R (pure a) (pure b) :=
  ⟨rfl, Or.inr ⟨a, b, rfl, rfl, h⟩⟩

/-- Related computations can be followed by computations that are related on related values. -/
lemma Related.bind {δ : Type} {R : α → β → Prop} {S : γ → δ → Prop} {first : Traced α}
    {second : Traced β} (h : Related R first second) {f : α → Traced γ} {g : β → Traced δ}
    (hnext : ∀ a b, R a b → Related S (f a) (g b)) : Related S (first >>= f) (second >>= g) := by
  obtain ⟨hremarks, ⟨fault, hfirst, hsecond⟩ | ⟨a, b, hfirst, hsecond, hab⟩⟩ := h
  · refine ⟨?_, Or.inl ⟨fault, ?_, ?_⟩⟩
    · rw [remarks_bind_of_error hfirst, remarks_bind_of_error hsecond, hremarks]
    · rw [outcome_bind, hfirst]
      rfl
    · rw [outcome_bind, hsecond]
      rfl
  · obtain ⟨hlater, houtcomes⟩ := hnext a b hab
    refine ⟨?_, ?_⟩
    · rw [remarks_bind_of_ok hfirst, remarks_bind_of_ok hsecond, hremarks, hlater]
    · rw [outcome_bind, outcome_bind, hfirst, hsecond, ok_bind, ok_bind]
      exact houtcomes

/-- Every computation is related to itself. -/
lemma related_refl (traced : Traced α) : Related Eq traced traced := by
  refine ⟨rfl, ?_⟩
  rcases eq_ok_or_eq_error traced.outcome with ⟨a, ha⟩ | ⟨fault, hfault⟩
  · exact Or.inr ⟨a, a, ha, ha, rfl⟩
  · exact Or.inl ⟨fault, hfault, hfault⟩

/-- Computations that end in equal values are equal. -/
lemma Related.eq {first second : Traced α} (h : Related Eq first second) : first = second := by
  obtain ⟨hremarks, ⟨fault, hfirst, hsecond⟩ | ⟨a, b, hfirst, hsecond, hab⟩⟩ := h
  · exact eq_of_outcome_of_remarks (hfirst.trans hsecond.symm) hremarks
  · rw [hab] at hfirst
    exact eq_of_outcome_of_remarks (hfirst.trans hsecond.symm) hremarks

/-- What follows related computations is the same when related values are treated alike. -/
lemma Related.bind_eq {R : α → β → Prop} {first : Traced α} {second : Traced β}
    (h : Related R first second) {f : α → Traced γ} {g : β → Traced γ}
    (hnext : ∀ a b, R a b → f a = g b) : (first >>= f) = (second >>= g) :=
  (h.bind fun a b hab => hnext a b hab ▸ related_refl (f a)).eq

/-- What follows a computation matters only for the value that it ends with. -/
lemma bind_congr_of_ok {first : Traced α} {f g : α → Traced β}
    (h : ∀ a, first.outcome = .ok a → f a = g a) : (first >>= f) = (first >>= g) := by
  have hself : Related (fun a b => a = b ∧ first.outcome = .ok a) first first := by
    refine ⟨rfl, ?_⟩
    rcases eq_ok_or_eq_error first.outcome with ⟨a, ha⟩ | ⟨fault, hfault⟩
    · exact Or.inr ⟨a, a, ha, ha, rfl, ha⟩
    · exact Or.inl ⟨fault, hfault, hfault⟩
  refine hself.bind_eq ?_
  rintro a _ ⟨rfl, ha⟩
  exact h a ha

/-- Folds whose steps keep a relation between their states end in related states. -/
lemma related_foldlM {R : β → γ → Prop} {f : β → α → Traced β} {g : γ → α → Traced γ}
    {items : List α} (hstep : ∀ b c, ∀ item ∈ items, R b c → Related R (f b item) (g c item))
    {b : β} {c : γ} (h : R b c) : Related R (items.foldlM f b) (items.foldlM g c) := by
  induction items generalizing b c with
  | nil => exact related_pure h
  | cons item rest ih =>
    rw [List.foldlM_cons, List.foldlM_cons]
    refine (hstep b c item List.mem_cons_self h).bind fun b' c' h' => ih ?_ h'
    exact fun b c other hother => hstep b c other (List.mem_cons_of_mem item hother)

/-- Folds whose steps are alike on their items are alike. -/
lemma foldlM_congr {f g : β → α → Traced β} {items : List α}
    (h : ∀ b, ∀ item ∈ items, f b item = g b item) (start : β) :
    items.foldlM f start = items.foldlM g start := by
  refine (related_foldlM (R := Eq) ?_ rfl).eq
  rintro b _ item hitem rfl
  rw [h b item hitem]
  exact related_refl _

/-- Equal computations for all items make equal lists of computations. -/
lemma mapM_congr {f g : α → Traced β} {items : List α} (h : ∀ item ∈ items, f item = g item) :
    items.mapM f = items.mapM g := by
  induction items with
  | nil => rfl
  | cons item rest ih =>
    rw [List.mapM_cons, List.mapM_cons, h item List.mem_cons_self,
      ih fun other hother => h other (List.mem_cons_of_mem item hother)]

/-- Items for which there is nothing to compute can be left out beforehand. -/
lemma mapM_filterMap {p : α → Option β} {f : α → Traced (Option γ)} {g : β → Traced γ}
    {items : List α} (hnone : ∀ item ∈ items, p item = none → f item = pure none)
    (hsome : ∀ item ∈ items, ∀ b, p item = some b → f item = some <$> g b) :
    (items.filterMap p).mapM g = (fun found => found.filterMap id) <$> items.mapM f := by
  induction items with
  | nil => rfl
  | cons item rest ih =>
    have hrest := ih (fun other hother => hnone other (List.mem_cons_of_mem item hother))
      fun other hother => hsome other (List.mem_cons_of_mem item hother)
    cases hp : p item with
    | none =>
      rw [List.filterMap_cons_none hp, hrest, List.mapM_cons, hnone item List.mem_cons_self hp]
      simp
    | some b =>
      rw [List.filterMap_cons_some hp, List.mapM_cons, hrest, List.mapM_cons,
        hsome item List.mem_cons_self b hp]
      simp

end Traced

end ShaderLoom
