import Mathlib.Data.List.Forall2
import Mathlib.Data.List.Induction
import Mathlib.Data.List.Nodup
import ShaderLoom.Specialization

/-!
# Tables as maps

What is found in a table that was built by insertions.  A table keeps one entry for each name, so
that its entries and what is found in it say the same.  Insertions that agree on the entry of a
name leave that entry behind, in whatever order they are made.

Two ways of building a table are looked at closely: keeping the first item of every key, and
collecting the items of every key in a group.  A sorted set of names, too, depends only on what is
in it.
-/

namespace ShaderLoom

namespace Table

variable {α β : Type}

/-! ### Entries and names -/

@[simp] lemma find?_empty (key : String) : (empty : Table α).find? key = none := rfl

lemma nodup_keys_empty : (empty : Table α).keys.Nodup := List.nodup_nil

/-- A change to all values changes the one that is looked up. -/
lemma lookup_map (f : α → β) (key : String) (entries : List (String × α)) :
    lookup key (entries.map fun entry => (entry.1, f entry.2)) = (lookup key entries).map f := by
  induction entries with
  | nil => rfl
  | cons entry rest ih =>
    obtain ⟨name, value⟩ := entry
    simp only [List.map_cons, lookup, ih]
    split <;> rfl

@[simp] lemma find?_map (f : α → β) (table : Table α) (key : String) :
    (table.map f).find? key = (table.find? key).map f :=
  lookup_map f key table.entries

/-- Nothing is looked up for names that have no entry. -/
lemma lookup_eq_none_iff {key : String} {entries : List (String × α)} :
    lookup key entries = none ↔ key ∉ entries.map Prod.fst := by
  induction entries with
  | nil => simp [lookup]
  | cons entry rest ih =>
    obtain ⟨name, value⟩ := entry
    by_cases h : name = key
    · simp [lookup, h]
    · have h' : ¬ key = name := fun e => h e.symm
      simp [lookup, h, h', ih]

/-- The names of a table are those under which something is found. -/
lemma mem_keys_iff {table : Table α} {key : String} :
    key ∈ table.keys ↔ ∃ value, table.find? key = some value := by
  rw [← Option.ne_none_iff_exists', ne_eq, find?, lookup_eq_none_iff, not_not, keys]

/-- What is looked up is an entry. -/
lemma mem_of_lookup_eq_some {key : String} {value : α} {entries : List (String × α)}
    (h : lookup key entries = some value) : (key, value) ∈ entries := by
  induction entries with
  | nil => cases h
  | cons entry rest ih =>
    obtain ⟨name, old⟩ := entry
    by_cases hname : name = key
    · rw [lookup, if_pos hname] at h
      cases h
      rw [hname]
      exact List.mem_cons_self
    · rw [lookup, if_neg hname] at h
      exact List.mem_cons_of_mem _ (ih h)

lemma mem_entries_of_find? {table : Table α} {key : String} {value : α}
    (h : table.find? key = some value) : (key, value) ∈ table.entries :=
  mem_of_lookup_eq_some h

/-- Where no name has two entries, every entry is looked up. -/
lemma lookup_eq_some_of_mem {key : String} {value : α} {entries : List (String × α)}
    (hkeys : (entries.map Prod.fst).Nodup) (h : (key, value) ∈ entries) :
    lookup key entries = some value := by
  induction entries with
  | nil => cases h
  | cons entry rest ih =>
    obtain ⟨name, old⟩ := entry
    rw [List.map_cons, List.nodup_cons] at hkeys
    rcases List.mem_cons.mp h with heq | hmem
    · cases heq
      rw [lookup, if_pos rfl]
    · have hne : name ≠ key := by
        rintro rfl
        exact hkeys.1 (List.mem_map.mpr ⟨_, hmem, rfl⟩)
      rw [lookup, if_neg hne]
      exact ih hkeys.2 hmem

/-- In a table whose names differ, an entry is there exactly when it is found. -/
lemma mem_entries_iff {table : Table α} (hkeys : table.keys.Nodup) {key : String} {value : α} :
    (key, value) ∈ table.entries ↔ table.find? key = some value :=
  ⟨lookup_eq_some_of_mem hkeys, mem_entries_of_find?⟩

/-- The values of a table whose names differ are those that are found under some name. -/
lemma mem_values_iff {table : Table α} (hkeys : table.keys.Nodup) {value : α} :
    value ∈ table.values ↔ ∃ key, table.find? key = some value := by
  constructor
  · intro h
    obtain ⟨⟨key, value'⟩, hmem, rfl⟩ := List.mem_map.mp h
    exact ⟨key, (mem_entries_iff hkeys).mp hmem⟩
  · rintro ⟨key, h⟩
    exact List.mem_map.mpr ⟨(key, value), mem_entries_of_find? h, rfl⟩

/-- An insertion keeps the names of a table different. -/
lemma nodup_keys_insert {table : Table α} (hkeys : table.keys.Nodup) (key : String) (value : α) :
    (table.insert key value).keys.Nodup := by
  rw [keys_insert]
  split
  · exact hkeys
  · next hkey => exact List.nodup_append.mpr ⟨hkeys, List.nodup_singleton key, by
      intro name hname other hother heq
      rw [List.mem_singleton] at hother
      exact hkey (hother ▸ heq ▸ hname)⟩

/-! ### Insertions one after the other -/

/-- The table with the given items inserted, each under its own name. -/
def insertAll {ι : Type} (name : ι → String) (value : ι → α) (table : Table α) (items : List ι) :
    Table α :=
  items.foldl (fun table item => table.insert (name item) (value item)) table

section InsertAll

variable {ι : Type} {name : ι → String} {value : ι → α}

/-- No name gets a second entry. -/
lemma nodup_keys_insertAll {table : Table α} (hkeys : table.keys.Nodup) (items : List ι) :
    (insertAll name value table items).keys.Nodup := by
  induction items generalizing table with
  | nil => exact hkeys
  | cons item rest ih => exact ih (nodup_keys_insert hkeys (name item) (value item))

/-- Insertions under other names change nothing. -/
lemma find?_insertAll_of_not_mem {table : Table α} {items : List ι} {key : String}
    (h : ∀ item ∈ items, name item ≠ key) :
    (insertAll name value table items).find? key = table.find? key := by
  induction items generalizing table with
  | nil => rfl
  | cons item rest ih =>
    have hne : name item ≠ key := h item List.mem_cons_self
    calc (insertAll name value table (item :: rest)).find? key
        = (table.insert (name item) (value item)).find? key :=
          ih fun other hother => h other (List.mem_cons_of_mem item hother)
      _ = table.find? key := by rw [find?_insert, if_neg hne]

/-- When the items of a name agree on its entry, that entry is found, whatever came first. -/
lemma find?_insertAll_of_mem {table : Table α} {items : List ι} {key : String} {v : α}
    (hmem : ∃ item ∈ items, name item = key)
    (hvalue : ∀ item ∈ items, name item = key → value item = v) :
    (insertAll name value table items).find? key = some v := by
  induction items generalizing table with
  | nil =>
    obtain ⟨item, hitem, -⟩ := hmem
    cases hitem
  | cons item rest ih =>
    have hrest : ∀ other ∈ rest, name other = key → value other = v :=
      fun other hother => hvalue other (List.mem_cons_of_mem item hother)
    by_cases hlater : ∃ other ∈ rest, name other = key
    · exact ih hlater hrest
    · -- the entry was put by the first item, and no later item touches it
      obtain ⟨other, hother, hname⟩ := hmem
      rcases List.mem_cons.mp hother with rfl | hother
      · have hv : value other = v := hvalue other List.mem_cons_self hname
        calc (insertAll name value table (other :: rest)).find? key
            = (table.insert (name other) (value other)).find? key :=
              find?_insertAll_of_not_mem fun later hlater' heq => hlater ⟨later, hlater', heq⟩
          _ = some v := by rw [find?_insert, if_pos hname, hv]
      · exact absurd ⟨other, hother, hname⟩ hlater

/-- What is found after insertions was inserted, or there before. -/
lemma exists_of_find?_insertAll {table : Table α} {items : List ι} {key : String} {v : α}
    (h : (insertAll name value table items).find? key = some v) :
    (∃ item ∈ items, value item = v) ∨ table.find? key = some v := by
  induction items generalizing table with
  | nil => exact Or.inr h
  | cons item rest ih =>
    rcases ih h with ⟨other, hother, hv⟩ | hfind
    · exact Or.inl ⟨other, List.mem_cons_of_mem item hother, hv⟩
    · rw [find?_insert] at hfind
      split at hfind
      · exact Or.inl ⟨item, List.mem_cons_self, Option.some.inj hfind⟩
      · exact Or.inr hfind

/-- Insertions that agree on the entry of every name can be made in any order. -/
lemma find?_insertAll_of_perm {items items' : List ι} (hperm : items.Perm items')
    (hvalue : ∀ item ∈ items, ∀ other ∈ items, name item = name other → value item = value other)
    (table : Table α) (key : String) :
    (insertAll name value table items).find? key =
      (insertAll name value table items').find? key := by
  by_cases hmem : ∃ item ∈ items, name item = key
  · obtain ⟨item, hitem, hname⟩ := hmem
    have hagree : ∀ other ∈ items, name other = key → value other = value item :=
      fun other hother hkey => hvalue other hother item hitem (hkey.trans hname.symm)
    rw [find?_insertAll_of_mem ⟨item, hitem, hname⟩ hagree,
      find?_insertAll_of_mem ⟨item, hperm.mem_iff.mp hitem, hname⟩
        fun other hother => hagree other (hperm.mem_iff.mpr hother)]
  · rw [find?_insertAll_of_not_mem fun item hitem hname => hmem ⟨item, hitem, hname⟩,
      find?_insertAll_of_not_mem fun item hitem hname =>
        hmem ⟨item, hperm.mem_iff.mpr hitem, hname⟩]

end InsertAll

/-- A table of entries is made by adding one after the other. -/
lemma ofList_eq_insertAll (entries : List (String × α)) :
    ofList entries = insertAll Prod.fst Prod.snd empty entries := rfl

/-- A new name gets its entry at the end. -/
lemma put_of_not_mem {key : String} {value : α} {entries : List (String × α)}
    (h : key ∉ entries.map Prod.fst) : put key value entries = entries ++ [(key, value)] := by
  induction entries with
  | nil => rfl
  | cons entry rest ih =>
    obtain ⟨name, old⟩ := entry
    rw [List.map_cons, List.mem_cons, not_or] at h
    rw [put, if_neg (Ne.symm h.1), ih h.2]
    rfl

/-- A table of entries with different names keeps them as they are. -/
lemma entries_ofList {entries : List (String × α)} (hkeys : (entries.map Prod.fst).Nodup) :
    (ofList entries).entries = entries := by
  induction entries using List.reverseRecOn with
  | nil => rfl
  | append_singleton rest entry ih =>
    rw [List.map_append, List.nodup_append] at hkeys
    have hrest : (ofList rest).entries = rest := ih hkeys.1
    have hnew : entry.1 ∉ rest.map Prod.fst := fun h =>
      hkeys.2.2 entry.1 h entry.1 (by simp) rfl
    have hstep : (ofList (rest ++ [entry])).entries =
        put entry.1 entry.2 (ofList rest).entries := by
      simp only [ofList, List.foldl_append, List.foldl_cons, List.foldl_nil]
      rfl
    rw [hstep, hrest, put_of_not_mem hnew]

/-! ### Two tables side by side -/

/-- The tables have the same names in the same order, with related entries. -/
def Pairs (R : String → α → β → Prop) (table : Table α) (table' : Table β) : Prop :=
  List.Forall₂ (fun entry entry' => entry.1 = entry'.1 ∧ R entry.1 entry.2 entry'.2)
    table.entries table'.entries

section Pairs

variable {R : String → α → β → Prop} {table : Table α} {table' : Table β}

lemma pairs_empty : Pairs R empty empty := List.Forall₂.nil

/-- A name has no entry in either table, or related entries in both. -/
lemma Pairs.find?_cases (h : Pairs R table table') (key : String) :
    (table.find? key = none ∧ table'.find? key = none) ∨
      ∃ v w, table.find? key = some v ∧ table'.find? key = some w ∧ R key v w := by
  unfold Pairs at h
  unfold find?
  generalize table.entries = entries at h ⊢
  generalize table'.entries = entries' at h ⊢
  induction h with
  | nil => exact Or.inl ⟨rfl, rfl⟩
  | @cons entry entry' rest rest' hentry _ ih =>
    obtain ⟨name, v⟩ := entry
    obtain ⟨name', w⟩ := entry'
    obtain ⟨rfl, hrelated⟩ := hentry
    by_cases hname : name = key
    · subst hname
      exact Or.inr ⟨v, w, if_pos rfl, if_pos rfl, hrelated⟩
    · simpa only [lookup, if_neg hname] using ih

/-- Insertions of related entries keep tables related. -/
lemma Pairs.insert (h : Pairs R table table') {key : String} {v : α} {w : β} (hvw : R key v w) :
    Pairs R (table.insert key v) (table'.insert key w) := by
  unfold Pairs Table.insert at *
  dsimp only
  generalize table.entries = entries at h ⊢
  generalize table'.entries = entries' at h ⊢
  induction h with
  | nil => exact List.Forall₂.cons ⟨rfl, hvw⟩ List.Forall₂.nil
  | @cons entry entry' rest rest' hentry hrest ih =>
    obtain ⟨name, v'⟩ := entry
    obtain ⟨name', w'⟩ := entry'
    obtain ⟨rfl, hrelated⟩ := hentry
    by_cases hname : name = key
    · simp only [put, if_pos hname]
      exact List.Forall₂.cons ⟨rfl, hvw⟩ hrest
    · simp only [put, if_neg hname]
      exact List.Forall₂.cons ⟨rfl, hrelated⟩ ih

/-- Images of related tables are the same when related entries have the same image. -/
lemma Pairs.map_eq {γ : Type} (h : Pairs R table table') {f : α → γ} {g : β → γ}
    (hfg : ∀ key v w, R key v w → f v = g w) : table.map f = table'.map g := by
  have hentries : table.entries.map (fun entry => (entry.1, f entry.2)) =
      table'.entries.map fun entry => (entry.1, g entry.2) := by
    unfold Pairs at h
    generalize table.entries = entries at h ⊢
    generalize table'.entries = entries' at h ⊢
    induction h with
    | nil => rfl
    | cons hentry _ ih => rw [List.map_cons, List.map_cons, ih, hentry.1, hfg _ _ _ hentry.2]
  exact congrArg Table.mk hentries

end Pairs

end Table

/-! ### The first item of every key -/

/-- The items whose keys did not come before, in a table under their keys. -/
def firstsOf {α : Type} (key : α → String) (table : Table α) (items : List α) : Table α :=
  items.foldl (fun table item => table.insertNew (key item) item) table

section Firsts

variable {α : Type} {key : α → String}

/-- An entry for a name that has one already is left out. -/
lemma find?_insertNew (table : Table α) (name name' : String) (value : α) :
    (table.insertNew name value).find? name' =
      (table.find? name').or (if name = name' then some value else none) := by
  unfold Table.insertNew Table.contains
  cases h : table.find? name with
  | some old =>
    by_cases heq : name = name'
    · subst heq
      simp [h]
    · simp [heq]
  | none =>
    rw [Option.isSome_none, if_neg Bool.false_ne_true, Table.find?_insert]
    by_cases heq : name = name'
    · subst heq
      simp [h]
    · simp [heq]

/-- Of the items with a name, the first one is found, unless the table has the name. -/
lemma find?_firstsOf (table : Table α) (items : List α) (name : String) :
    (firstsOf key table items).find? name =
      (table.find? name).or (items.find? fun item => key item == name) := by
  induction items generalizing table with
  | nil => simp [firstsOf]
  | cons item rest ih =>
    have hstep : firstsOf key table (item :: rest) =
        firstsOf key (table.insertNew (key item) item) rest := rfl
    rw [hstep, ih, find?_insertNew]
    by_cases h : key item = name
    · rw [List.find?_cons_of_pos (by simpa using h), if_pos h]
      cases table.find? name <;> rfl
    · rw [List.find?_cons_of_neg (by simpa using h), if_neg h, Option.or_none]

/-- Adding what is new gives no name a second entry. -/
lemma nodup_keys_insertNew {table : Table α} (hkeys : table.keys.Nodup) (name : String)
    (value : α) : (table.insertNew name value).keys.Nodup := by
  unfold Table.insertNew
  split
  · exact hkeys
  · exact Table.nodup_keys_insert hkeys name value

/-- No two items of a name are kept. -/
lemma nodup_keys_firstsOf {table : Table α} (hkeys : table.keys.Nodup) (items : List α) :
    (firstsOf key table items).keys.Nodup := by
  induction items generalizing table with
  | nil => exact hkeys
  | cons item rest ih => exact ih (nodup_keys_insertNew hkeys (key item) item)

/-- An entry with a new name stands behind the others. -/
lemma entries_insertNew (table : Table α) (name : String) (value : α) :
    (table.insertNew name value).entries =
      table.entries ++ if table.contains name then [] else [(name, value)] := by
  unfold Table.insertNew
  split
  · rw [List.append_nil]
  · next hnew =>
    have hname : name ∉ table.entries.map Prod.fst := by
      rw [← Table.lookup_eq_none_iff]
      simpa [Table.contains, Table.find?] using hnew
    rw [Table.insert, Table.put_of_not_mem hname]

/-- The items that are kept stand under their keys. -/
lemma map_values_firstsOf {table : Table α} (h : table.values.map key = table.keys)
    (items : List α) :
    (firstsOf key table items).values.map key = (firstsOf key table items).keys := by
  induction items generalizing table with
  | nil => exact h
  | cons item rest ih =>
    refine ih ?_
    unfold Table.values Table.keys at h ⊢
    rw [entries_insertNew, List.map_append, List.map_append, List.map_append, h]
    split
    · rfl
    · rfl

/-- An item is kept exactly when no item before it has the same key. -/
lemma mem_values_firstsOf_iff {items : List α} {item : α} :
    item ∈ (firstsOf key Table.empty items).values ↔
      items.find? (fun other => key other == key item) = some item := by
  rw [Table.mem_values_iff (nodup_keys_firstsOf Table.nodup_keys_empty items)]
  constructor
  · rintro ⟨name, h⟩
    rw [find?_firstsOf, Table.find?_empty, Option.none_or] at h
    have hname : key item = name := by simpa using List.find?_some h
    rw [hname]
    exact h
  · intro h
    exact ⟨key item, by rw [find?_firstsOf, Table.find?_empty, Option.none_or, h]⟩

end Firsts

/-! ### Sorted names -/

/-- No item is left twice when repeated items are erased. -/
lemma nodup_eraseDups {α : Type} [DecidableEq α] (items : List α) : items.eraseDups.Nodup := by
  induction h : items.length using Nat.strongRecOn generalizing items with
  | _ n ih =>
    cases items with
    | nil => exact List.nodup_nil
    | cons item rest =>
      rw [List.eraseDups_cons, List.nodup_cons]
      constructor
      · intro hmem
        have := (List.mem_filter.mp (List.mem_eraseDups.mp hmem)).2
        simp at this
      · refine ih _ ?_ _ rfl
        have := List.length_filter_le (fun b => !b == item) rest
        rw [List.length_cons] at h
        omega

/-- An item that comes last is kept if it is new. -/
lemma eraseDups_concat {α : Type} [DecidableEq α] (items : List α) (item : α) :
    (items ++ [item]).eraseDups =
      if item ∈ items then items.eraseDups else items.eraseDups ++ [item] := by
  rw [List.eraseDups_append]
  unfold List.removeAll
  by_cases hmem : item ∈ items
  · rw [if_pos hmem, List.filter_cons_of_neg (by simpa using hmem)]
    exact List.append_nil _
  · rw [if_neg hmem, List.filter_cons_of_pos (by simpa using hmem)]
    rfl

namespace Text

/-- Sorting keeps what there is. -/
lemma mem_sortedSet {name : String} {names : List String} :
    name ∈ sortedSet names ↔ name ∈ names := by
  unfold sortedSet
  rw [List.mem_mergeSort, List.mem_eraseDups]

/-- Sorting leaves one of each name. -/
lemma nodup_sortedSet (names : List String) : (sortedSet names).Nodup :=
  (List.mergeSort_perm _ _).nodup_iff.mpr (nodup_eraseDups names)

/-- A sorted set depends only on which names are in it. -/
lemma sortedSet_congr {names names' : List String} (h : ∀ name, name ∈ names ↔ name ∈ names') :
    sortedSet names = sortedSet names' := by
  have hsorted : ∀ names : List String, (sortedSet names).Pairwise fun a b => decide (a ≤ b) := by
    intro names
    refine List.pairwise_mergeSort (fun a b c hab hbc => ?_) (fun a b => ?_) names.eraseDups
    · rw [decide_eq_true_iff] at hab hbc ⊢
      exact String.le_trans hab hbc
    · simpa using String.le_total a b
  have hperm : (sortedSet names).Perm (sortedSet names') := by
    refine (List.perm_ext_iff_of_nodup (nodup_sortedSet names)
      (nodup_sortedSet names')).mpr fun name => ?_
    rw [mem_sortedSet, mem_sortedSet, h]
  refine hperm.eq_of_pairwise (fun a b _ _ hab hba => ?_) (hsorted names) (hsorted names')
  rw [decide_eq_true_iff] at hab hba
  exact String.le_antisymm hab hba

end Text

/-! ### Groups -/

section Groups

variable {α : Type} (key : α → String)

/-- The group of a key: all items with the key, in order. -/
def groupAt (items : List α) (name : String) : String × List α :=
  (name, items.filter fun item => key item == name)

/-- Groups are named by the names that they are made for. -/
lemma map_fst_groupAt (items : List α) (names : List String) :
    (names.map (groupAt key items)).map Prod.fst = names := by
  simp [groupAt, Function.comp_def]

/-- The group of a name has the items with this name, in their order. -/
lemma lookup_map_groupAt {items : List α} {names : List String} {name : String}
    (h : name ∈ names) :
    Table.lookup name (names.map (groupAt key items)) =
      some (items.filter fun item => key item == name) := by
  induction names with
  | nil => cases h
  | cons first rest ih =>
    simp only [List.map_cons, groupAt, Table.lookup]
    split
    · next heq => rw [heq]
    · next hne =>
      exact ih ((List.mem_cons.mp h).resolve_left fun heq => hne heq.symm)

/-- Groups of other keys do not change with a new item. -/
lemma map_groupAt_append {items : List α} {item : α} {names : List String}
    (h : key item ∉ names) :
    names.map (groupAt key items) = names.map (groupAt key (items ++ [item])) := by
  refine List.map_congr_left fun name hname => ?_
  have hne : key item ≠ name := by
    rintro rfl
    exact h hname
  simp [groupAt, hne]

/-- A new item comes last in the group of its name. -/
lemma put_map_groupAt {items : List α} {item : α} {names : List String}
    (hnames : names.Nodup) (h : key item ∈ names) :
    Table.put (key item) ((items.filter fun other => key other == key item) ++ [item])
        (names.map (groupAt key items)) =
      names.map (groupAt key (items ++ [item])) := by
  induction names with
  | nil => cases h
  | cons first rest ih =>
    rw [List.nodup_cons] at hnames
    simp only [List.map_cons, groupAt, Table.put]
    by_cases hfirst : first = key item
    · -- the other groups do not hold the new item
      rw [if_pos hfirst, hfirst]
      have hothers : rest.map (groupAt key items) = rest.map (groupAt key (items ++ [item])) :=
        map_groupAt_append key (hfirst ▸ hnames.1)
      rw [hothers]
      simp
    · have hmem : key item ∈ rest := (List.mem_cons.mp h).resolve_left fun heq => hfirst heq.symm
      have hne : key item ≠ first := fun heq => hfirst heq.symm
      rw [if_neg hfirst]
      simp only [List.filter_append, List.filter_cons, List.filter_nil]
      rw [if_neg (by simpa using hne), List.append_nil]
      exact congrArg _ (ih hnames.2 hmem)

/-- The entries of the groups of a list with one more item. -/
lemma entries_groupOn_append (items : List α) (item : α) :
    groupOn key (items ++ [item]) =
      Table.put (key item) ((Table.lookup (key item) (groupOn key items)).getD [] ++ [item])
        (groupOn key items) := by
  simp only [groupOn, List.foldl_append, List.foldl_cons, List.foldl_nil]
  rfl

/-- Grouping collects, for every key in the order of its first item, the items of that key. -/
theorem groupOn_eq (items : List α) :
    groupOn key items = (items.map key).eraseDups.map (groupAt key items) := by
  induction items using List.reverseRecOn with
  | nil => rfl
  | append_singleton items item ih =>
    rw [entries_groupOn_append, ih, List.map_append, List.eraseDups_append]
    by_cases h : key item ∈ items.map key
    · have hmem : key item ∈ (items.map key).eraseDups := List.mem_eraseDups.mpr h
      have hold : ([item].map key).removeAll (items.map key) = [] := by
        simpa [List.removeAll] using h
      rw [lookup_map_groupAt key hmem, Option.getD_some,
        put_map_groupAt key (nodup_eraseDups _) hmem, hold, List.eraseDups_nil, List.append_nil]
    · have hmem : key item ∉ (items.map key).eraseDups := fun h' => h (List.mem_eraseDups.mp h')
      have hnew : ([item].map key).removeAll (items.map key) = [key item] := by
        simpa [List.removeAll] using h
      have hfind : Table.lookup (key item) ((items.map key).eraseDups.map (groupAt key items)) =
          none := by
        rw [Table.lookup_eq_none_iff, map_fst_groupAt]
        exact hmem
      have hgroup : groupAt key (items ++ [item]) (key item) = (key item, [item]) := by
        have hempty : items.filter (fun other => key other == key item) = [] := by
          refine List.filter_eq_nil_iff.mpr fun other hother heq => h ?_
          exact List.mem_map.mpr ⟨other, hother, by simpa using heq⟩
        simp [groupAt, hempty]
      rw [hfind, Option.getD_none, List.nil_append, hnew,
        Table.put_of_not_mem (by rw [map_fst_groupAt]; exact hmem),
        map_groupAt_append key hmem, List.map_append]
      have hone : [key item].eraseDups = [key item] := rfl
      rw [hone, List.map_singleton, hgroup]

variable {key}

/-- Grouping the images of items that keep their keys groups the items. -/
lemma groupOn_map {β : Type} {key' : β → String} {image : α → β}
    (hkey : ∀ item, key' (image item) = key item) (items : List α) :
    groupOn key' (items.map image) =
      (groupOn key items).map fun group => (group.1, group.2.map image) := by
  have hkeys : (items.map image).map key' = items.map key := by
    rw [List.map_map]
    exact List.map_congr_left fun item _ => hkey item
  rw [groupOn_eq, groupOn_eq, hkeys, List.map_map]
  refine List.map_congr_left fun name _ => ?_
  rw [Function.comp_apply, groupAt, groupAt, List.filter_map]
  refine congrArg (fun p => (name, List.map image (items.filter p))) (funext fun item => ?_)
  rw [Function.comp_apply, hkey]

end Groups

end ShaderLoom
