import ShaderLoom.Proofs.HelperIsolation
import ShaderLoom.Proofs.TextPieces

/-!
# Which helpers are kept

Of the helpers with one signature the first is kept, in the order in which they are found.  A
signature joins the return type, the name and the parameter types by underscores, but names and
parameter types may hold underscores themselves: a signature tells the syllables between
underscores, not where the name ends.  So a helper is lost to another one with a different name or
different parameters exactly when the two return the same type and have the same syllables.

A helper may call those that stand before it in its block.  If they are not kept, helpers with their
signatures are, and these come before it too.
-/

namespace ShaderLoom

/-! ### The first item of every kind -/

section Firsts

variable {α β γ : Type} [DecidableEq β] [DecidableEq γ]

/-- The items whose key no item before them has, in order. -/
def firstsBy (key : α → β) : List α → List α
  | [] => []
  | item :: rest => item :: (firstsBy key rest).filter fun other => key other ≠ key item

variable {key : α → β} {items : List α}

lemma mem_of_mem_firstsBy {item : α} (h : item ∈ firstsBy key items) : item ∈ items := by
  induction items with
  | nil => exact h
  | cons first rest ih =>
    rw [firstsBy, List.mem_cons, List.mem_filter] at h
    rcases h with rfl | ⟨h, -⟩
    · exact List.mem_cons_self
    · exact List.mem_cons_of_mem first (ih h)

/-- Every key has an item that stands for it. -/
lemma exists_mem_firstsBy {item : α} (h : item ∈ items) :
    ∃ first ∈ firstsBy key items, key first = key item := by
  induction items with
  | nil => cases h
  | cons head rest ih =>
    by_cases hkey : key head = key item
    · exact ⟨head, List.mem_cons_self, hkey⟩
    · have hrest : item ∈ rest := by
        rcases List.mem_cons.mp h with rfl | hrest
        · exact absurd rfl hkey
        · exact hrest
      obtain ⟨first, hfirst, heq⟩ := ih hrest
      refine ⟨first, List.mem_cons_of_mem head (List.mem_filter.mpr ⟨hfirst, ?_⟩), heq⟩
      rw [heq]
      simpa using Ne.symm hkey

/-- One item at most stands for a key. -/
lemma eq_of_mem_firstsBy {a b : α} (ha : a ∈ firstsBy key items) (hb : b ∈ firstsBy key items)
    (h : key a = key b) : a = b := by
  induction items with
  | nil => cases ha
  | cons head rest ih =>
    rw [firstsBy, List.mem_cons, List.mem_filter, decide_eq_true_eq] at ha hb
    rcases ha with rfl | ⟨ha, hne⟩
    · rcases hb with rfl | ⟨-, hne⟩
      · rfl
      · exact absurd h.symm hne
    · rcases hb with rfl | ⟨hb, -⟩
      · exact absurd h hne
      · exact ih ha hb

/-- Keys that are equal for the same items have the same first items. -/
lemma firstsBy_congr {key' : α → γ}
    (h : ∀ a ∈ items, ∀ b ∈ items, key a = key b ↔ key' a = key' b) :
    firstsBy key items = firstsBy key' items := by
  induction items with
  | nil => rfl
  | cons head rest ih =>
    have hrest := ih fun a ha b hb =>
      h a (List.mem_cons_of_mem head ha) b (List.mem_cons_of_mem head hb)
    rw [firstsBy, firstsBy, hrest]
    refine congrArg (List.cons head) (List.filter_congr fun other hother => ?_)
    have hiff := h other (List.mem_cons_of_mem head (mem_of_mem_firstsBy hother)) head
      List.mem_cons_self
    rw [decide_eq_decide, ne_eq, ne_eq, hiff]

/-- A coarser key keeps the same items exactly when it is not coarser among these items. -/
theorem firstsBy_eq_iff {key' : α → γ} (hcoarser : ∀ a b, key' a = key' b → key a = key b) :
    firstsBy key items = firstsBy key' items ↔
      ∀ a ∈ items, ∀ b ∈ items, key a = key b → key' a = key' b := by
  constructor
  · intro h a ha b hb hkey
    -- the two representatives under the finer key have one coarse key, so they are one item
    obtain ⟨first, hfirst, hfirst_key⟩ : ∃ first ∈ firstsBy key' items, key' first = key' a :=
      exists_mem_firstsBy ha
    obtain ⟨first', hfirst', hfirst'_key⟩ : ∃ first ∈ firstsBy key' items, key' first = key' b :=
      exists_mem_firstsBy hb
    have hcoarse : key first = key first' := by
      rw [hcoarser _ _ hfirst_key, hkey, hcoarser _ _ hfirst'_key]
    rw [← h] at hfirst hfirst'
    rw [← hfirst_key, ← hfirst'_key, eq_of_mem_firstsBy hfirst hfirst' hcoarse]
  · intro h
    exact firstsBy_congr fun a ha b hb => ⟨h a ha b hb, hcoarser a b⟩

/-- One more item is put at the end if its key is new. -/
lemma firstsBy_concat (items : List α) (item : α) :
    firstsBy key (items ++ [item]) =
      firstsBy key items ++ if key item ∈ items.map key then [] else [item] := by
  induction items with
  | nil => rfl
  | cons head rest ih =>
    rw [List.cons_append, firstsBy, firstsBy, ih, List.filter_append, List.cons_append,
      List.map_cons]
    by_cases hhead : key item = key head
    · rw [if_pos (List.mem_cons.mpr (Or.inl hhead))]
      split
      · rfl
      · simp [hhead]
    · by_cases hrest : key item ∈ rest.map key
      · rw [if_pos hrest, if_pos (List.mem_cons_of_mem _ hrest), List.filter_nil]
      · rw [if_neg hrest, if_neg (List.not_mem_cons_of_ne_of_not_mem hhead hrest)]
        simp [hhead]

/-- In front of an item that is kept stands what is kept of the items before it. -/
lemma exists_split_of_firstsBy {earlier later : List α} {item : α}
    (h : firstsBy key items = earlier ++ item :: later) :
    ∃ front back, items = front ++ item :: back ∧ firstsBy key front = earlier := by
  induction items using List.reverseRecOn generalizing later with
  | nil => exact absurd h (by simp [firstsBy])
  | append_singleton items last ih =>
    -- the item was kept before the last one came, or it is the last one
    have hcases : (∃ later', firstsBy key items = earlier ++ item :: later') ∨
        firstsBy key items = earlier ∧ item = last := by
      rw [firstsBy_concat] at h
      split at h
      · exact Or.inl ⟨later, by rw [← h, List.append_nil]⟩
      · rcases List.eq_nil_or_concat later with rfl | ⟨later', last', rfl⟩
        · obtain ⟨hearlier, hlast⟩ := List.append_singleton_inj.mp h
          exact Or.inr ⟨hearlier, hlast.symm⟩
        · have hconcat : firstsBy key items ++ [last] = earlier ++ item :: later' ++ [last'] := by
            simpa using h
          exact Or.inl ⟨later', (List.append_singleton_inj.mp hconcat).1⟩
    rcases hcases with ⟨later', hkept⟩ | ⟨hkept, rfl⟩
    · obtain ⟨front, back, rfl, hfront⟩ := ih hkept
      exact ⟨front, back ++ [last], by simp, hfront⟩
    · exact ⟨items, [], rfl, hkept⟩

/-- The firsts of images are the images of the firsts. -/
lemma firstsBy_map {δ : Type} (f : δ → α) (items : List δ) :
    firstsBy key (items.map f) = (firstsBy (fun item => key (f item)) items).map f := by
  induction items with
  | nil => rfl
  | cons head rest ih =>
    rw [List.map_cons, firstsBy, firstsBy, List.map_cons, ih, List.filter_map]
    rfl

end Firsts

section Tables

variable {α : Type} {key : α → String}

/-- A new item comes last, unless its name is known. -/
lemma values_insertNew (table : Table α) (item : α) :
    (table.insertNew (key item) item).values =
      table.values ++ if table.contains (key item) then [] else [item] := by
  rw [Table.values, entries_insertNew, List.map_append]
  split
  · rfl
  · rfl

lemma contains_insertNew (table : Table α) (item : α) (name : String) :
    (table.insertNew (key item) item).contains name =
      (table.contains name || decide (key item = name)) := by
  unfold Table.contains
  rw [find?_insertNew, Option.isSome_or]
  by_cases h : key item = name <;> simp [h]

/-- Filling a table with the items whose keys are new keeps the first item of every key. -/
lemma values_firstsOf (table : Table α) (items : List α) :
    (firstsOf key table items).values =
      table.values ++ (firstsBy key items).filter fun item => !table.contains (key item) := by
  induction items generalizing table with
  | nil => simp [firstsOf, firstsBy]
  | cons item rest ih =>
    have hstep : firstsOf key table (item :: rest) =
        firstsOf key (table.insertNew (key item) item) rest := rfl
    have hfilter : (firstsBy key rest).filter
          (fun other => !(table.insertNew (key item) item).contains (key other)) =
        (firstsBy key rest).filter
          fun other => !table.contains (key other) && decide (key other ≠ key item) := by
      refine List.filter_congr fun other _ => ?_
      rw [contains_insertNew, Bool.not_or, ← decide_not]
      simp only [ne_eq, eq_comm]
    rw [hstep, ih, hfilter, values_insertNew, firstsBy, List.filter_cons, List.filter_filter,
      List.append_assoc]
    cases table.contains (key item) <;> rfl

end Tables

/-! ### Signatures -/

namespace Helper

open Text

/-- The pieces between underscores of the name and the parameter types of a helper. -/
def syllables (helper : Helper) : List (List Char) :=
  (helper.name :: helper.parameterTypes).flatMap fun word => splitOn '_' word.toList

/-- The return types of helpers have no underscore. -/
lemma underscore_not_mem_of_mem_returnTypes {type : String} (h : type ∈ returnTypes) :
    '_' ∉ type.toList := by
  have hall : returnTypes.all (fun type => !type.toList.contains '_') = true := by decide
  simpa using List.all_eq_true.mp hall type h

/-- The syllables of a signature are the return type and the syllables of the helper. -/
lemma splitOn_signature {helper : Helper} (h : helper.returnType ∈ returnTypes) :
    splitOn '_' helper.signature.toList = helper.returnType.toList :: helper.syllables := by
  unfold signature
  rw [String.toList_intercalate]
  have hmark : "_".toList = ['_'] := rfl
  rw [hmark, splitOn_intercalate '_' (by simp), List.map_cons, List.flatMap_cons,
    splitOn_of_not_mem (underscore_not_mem_of_mem_returnTypes h), List.flatMap_map]
  rfl

/-- Two helpers have one signature exactly when they return the same type and have the same
syllables. -/
theorem signature_eq_iff {a b : Helper} (ha : a.returnType ∈ returnTypes)
    (hb : b.returnType ∈ returnTypes) :
    a.signature = b.signature ↔ a.returnType = b.returnType ∧ a.syllables = b.syllables := by
  have hsplit : a.signature = b.signature ↔
      splitOn '_' a.signature.toList = splitOn '_' b.signature.toList := by
    rw [(splitOn_injective '_').eq_iff, String.toList_inj]
  rw [hsplit, splitOn_signature ha, splitOn_signature hb, List.cons.injEq, String.toList_inj]

/-- Helpers of one shape have one signature. -/
lemma signature_eq_of_shape_eq {a b : Helper} (h : a.shape = b.shape) :
    a.signature = b.signature := by
  simp only [shape, Prod.mk.injEq] at h
  unfold signature
  rw [h.1, h.2.1, h.2.2]

/-- The helpers that are found have return types that are known. -/
lemma returnType_mem_of_mem_flatMap_extract {blocks : List (List Char)} {helper : Helper}
    (h : helper ∈ blocks.flatMap extract) : helper.returnType ∈ returnTypes := by
  obtain ⟨block, -, hhelper⟩ := List.mem_flatMap.mp h
  exact (returnType_mem_and_isName_of_mem_extractAfter hhelper).1

/-- The helpers that are kept are the first of every signature. -/
lemma distinct_eq_firstsBy_signature (blocks : List (List Char)) :
    distinct blocks = firstsBy signature (blocks.flatMap extract) := by
  have hvalues : distinct blocks =
      [] ++ (firstsBy signature (blocks.flatMap extract)).filter fun _ => true :=
    values_firstsOf Table.empty (blocks.flatMap extract)
  rw [hvalues, List.nil_append, List.filter_true]

/-- Of all helpers that are found, the first of every signature is kept, in order.  That is the
first of every return type, name and list of parameter types exactly when no two helpers with the
same return type and the same syllables differ in these. -/
theorem distinct_eq_firstsBy (blocks : List (List Char)) :
    distinct blocks = firstsBy signature (blocks.flatMap extract) ∧
      (∀ a ∈ blocks.flatMap extract, ∀ b ∈ blocks.flatMap extract,
        a.signature = b.signature ↔ a.returnType = b.returnType ∧ a.syllables = b.syllables) ∧
      (distinct blocks = firstsBy shape (blocks.flatMap extract) ↔
        ∀ a ∈ blocks.flatMap extract, ∀ b ∈ blocks.flatMap extract,
          a.returnType = b.returnType → a.syllables = b.syllables → a.shape = b.shape) := by
  have hkept := distinct_eq_firstsBy_signature blocks
  have hsignature : ∀ a ∈ blocks.flatMap extract, ∀ b ∈ blocks.flatMap extract,
      a.signature = b.signature ↔ a.returnType = b.returnType ∧ a.syllables = b.syllables :=
    fun a ha b hb => signature_eq_iff (returnType_mem_of_mem_flatMap_extract ha)
      (returnType_mem_of_mem_flatMap_extract hb)
  refine ⟨hkept, hsignature, ?_⟩
  rw [hkept, firstsBy_eq_iff fun a b => signature_eq_of_shape_eq]
  constructor
  · intro h a ha b hb htype hsyllables
    exact h a ha b hb ((hsignature a ha b hb).mpr ⟨htype, hsyllables⟩)
  · intro h a ha b hb heq
    obtain ⟨htype, hsyllables⟩ := (hsignature a ha b hb).mp heq
    exact h a ha b hb htype hsyllables

/-- The name of one helper can look like the name and a parameter of another. -/
example : signature ⟨"float", "f_float", [], []⟩ = signature ⟨"float", "f", ["float"], []⟩ := by
  decide

/-! ### Where kept helpers were found -/

/-- A helper, the number of the block that it was found in, and its place among the helpers of the
block. -/
structure Found where
  block : Nat
  place : Nat
  helper : Helper
deriving DecidableEq

/-- The helpers of all blocks, in order. -/
def foundIn (blocks : List (List Char)) : List Found :=
  blocks.zipIdx.flatMap fun block =>
    (extract block.1).zipIdx.map fun found => ⟨block.2, found.2, found.1⟩

/-- The helpers that are kept, with the places where they were found. -/
def keptIn (blocks : List (List Char)) : List Found :=
  firstsBy (fun found : Found => found.helper.signature) (foundIn blocks)

/-- What is found is a helper at its place in its block. -/
lemma mem_foundIn_iff {blocks : List (List Char)} {found : Found} :
    found ∈ foundIn blocks ↔ ∃ block, blocks[found.block]? = some block ∧
      (extract block)[found.place]? = some found.helper := by
  unfold foundIn
  simp only [List.mem_flatMap, List.mem_map, List.mem_zipIdx_iff_getElem?, Prod.exists]
  constructor
  · rintro ⟨block, b, hblock, helper, i, hhelper, rfl⟩
    exact ⟨block, hblock, hhelper⟩
  · rintro ⟨block, hblock, hhelper⟩
    exact ⟨block, found.block, hblock, found.helper, found.place, hhelper, rfl⟩

/-- Places apart, what is found are the helpers of all blocks. -/
lemma map_helper_foundIn (blocks : List (List Char)) :
    (foundIn blocks).map Found.helper = blocks.flatMap extract := by
  have hblock : ∀ block : List Char × Nat, ((extract block.1).zipIdx.map fun found =>
      (⟨block.2, found.2, found.1⟩ : Found)).map Found.helper = extract block.1 := by
    intro block
    rw [List.map_map]
    exact List.zipIdx_map_fst 0 (extract block.1)
  unfold foundIn
  simp only [List.map_flatMap, hblock]
  rw [← List.flatMap_map, List.zipIdx_map_fst]

/-- Places apart, what is kept are the distinct helpers. -/
lemma map_helper_keptIn (blocks : List (List Char)) :
    (keptIn blocks).map Found.helper = distinct blocks := by
  rw [distinct_eq_firstsBy_signature, ← map_helper_foundIn, firstsBy_map]
  rfl

/-- Helpers are found block by block, and in each block one after the other. -/
lemma pairwise_foundIn (blocks : List (List Char)) : (foundIn blocks).Pairwise fun a b =>
    a.block < b.block ∨ a.block = b.block ∧ a.place < b.place := by
  have hplaces : ∀ {α : Type} (items : List α),
      items.zipIdx.Pairwise fun a b => a.2 < b.2 := by
    intro α items
    rw [← List.pairwise_map (f := Prod.snd) (R := (· < ·)), List.zipIdx_map_snd]
    exact List.pairwise_lt_range'
  unfold foundIn
  rw [List.pairwise_flatMap]
  constructor
  · intro block _
    rw [List.pairwise_map]
    exact (hplaces (extract block.1)).imp fun hlt => Or.inr ⟨rfl, hlt⟩
  · refine (hplaces blocks).imp fun hlt => ?_
    simp only [List.mem_map]
    rintro _ ⟨_, -, rfl⟩ _ ⟨_, -, rfl⟩
    exact Or.inl hlt

/-- A helper comes behind all that stand before it in its block. -/
lemma mem_front_of_place_lt {blocks : List (List Char)} {front back : List Found}
    {found earlier : Found} (h : foundIn blocks = front ++ found :: back)
    (hearlier : earlier ∈ foundIn blocks) (hblock : earlier.block = found.block)
    (hplace : earlier.place < found.place) : earlier ∈ front := by
  have hpairwise := pairwise_foundIn blocks
  rw [h, List.pairwise_append, List.pairwise_cons] at hpairwise
  rw [h, List.mem_append, List.mem_cons] at hearlier
  rcases hearlier with hfront | rfl | hback
  · exact hfront
  · omega
  · have := hpairwise.2.1.1 earlier hback
    omega

/-- A helper that is kept comes behind a helper with the signature of each one that stands before it
in its block, be it from this block or from another.  So what it may call is defined before it. -/
theorem kept_behind_companions (blocks : List (List Char)) :
    (keptIn blocks).map Found.helper = distinct blocks ∧
      ∀ (q : Nat) (found : Found), (keptIn blocks)[q]? = some found →
        ∃ block, blocks[found.block]? = some block ∧
          (extract block)[found.place]? = some found.helper ∧
          ∀ i < found.place, ∀ helper : Helper, (extract block)[i]? = some helper →
            ∃ p < q, ∃ first : Helper, (distinct blocks)[p]? = some first ∧
              first.signature = helper.signature := by
  refine ⟨map_helper_keptIn blocks, fun q found hfound => ?_⟩
  obtain ⟨block, hblock, hplace⟩ :=
    mem_foundIn_iff.mp (mem_of_mem_firstsBy (List.mem_of_getElem? hfound))
  refine ⟨block, hblock, hplace, fun i hi helper hhelper => ?_⟩
  obtain ⟨hq, hget⟩ := List.getElem?_eq_some_iff.mp hfound
  have hsplit : keptIn blocks =
      (keptIn blocks).take q ++ found :: (keptIn blocks).drop (q + 1) := by
    rw [← hget, List.getElem_cons_drop, List.take_append_drop]
  obtain ⟨front, back, hfront, hkept⟩ : ∃ front back, foundIn blocks = front ++ found :: back ∧
      firstsBy (fun found : Found => found.helper.signature) front = (keptIn blocks).take q :=
    exists_split_of_firstsBy hsplit
  have hmem : ⟨found.block, i, helper⟩ ∈ front :=
    mem_front_of_place_lt hfront (mem_foundIn_iff.mpr ⟨block, hblock, hhelper⟩) rfl hi
  obtain ⟨first, hfirst, hsignature⟩ : ∃ first ∈ (keptIn blocks).take q,
      first.helper.signature = helper.signature := by
    rw [← hkept]
    exact exists_mem_firstsBy hmem
  obtain ⟨p, hp, rfl⟩ := List.mem_take_iff_getElem.mp hfirst
  refine ⟨p, by omega, (keptIn blocks)[p].helper, ?_, hsignature⟩
  rw [← map_helper_keptIn, List.getElem?_map, List.getElem?_eq_getElem (by omega), Option.map_some]

/-- Two pieces of code that both bring along the helper `a`, the second one for its helper `c`. -/
def sharedHelpers : List (List Char) :=
  ["float b(vec2 x) \x7b return x.y; \x7d float a() \x7b return 0.5; \x7d".toList,
   "float a() \x7b return 0.5; \x7d float c() \x7b return a(); \x7d".toList]

/-- The helper `a` in front of `c` is dropped, and the other one stands before `c` as well. -/
theorem kept_behind_companions_sharedHelpers :
    (keptIn sharedHelpers).map (fun found => (found.block, found.place, found.helper.name)) =
        [(0, 0, "b"), (0, 1, "a"), (1, 1, "c")] ∧
      ∃ p < 2, ∃ first : Helper, (distinct sharedHelpers)[p]? = some first ∧
        first.signature = "float_a" := by
  have hkept : (keptIn sharedHelpers)[2]? =
      some ⟨1, 1, "float", "c", [], "float c() \x7b return a(); \x7d".toList⟩ := by decide +kernel
  obtain ⟨block, hblock, -, hbefore⟩ := (kept_behind_companions sharedHelpers).2 2 _ hkept
  cases hblock
  refine ⟨by decide +kernel, hbefore 0 (by decide)
    ⟨"float", "a", [], "float a() \x7b return 0.5; \x7d".toList⟩ (by decide +kernel)⟩

end Helper

end ShaderLoom
