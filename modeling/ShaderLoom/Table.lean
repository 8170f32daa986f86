/-!
# Tables

A table maps names to entries and remembers the order in which the names first came.  Replacing
an entry keeps its place.
-/

namespace ShaderLoom

/-- Named entries in the order of their first insertion. -/
structure Table (α : Type) where
  entries : List (String × α)
deriving Inhabited

namespace Table

variable {α β : Type}

/-- The table without entries. -/
def empty : Table α := ⟨[]⟩

instance : EmptyCollection (Table α) := ⟨empty⟩

/-- The names of a table, in order. -/
def keys (table : Table α) : List String := table.entries.map Prod.fst

/-- The entries of a table, in order. -/
def values (table : Table α) : List α := table.entries.map Prod.snd

/-- The first entry called `key`. -/
def lookup (key : String) : List (String × α) → Option α
  | [] => none
  | (name, value) :: rest => if name = key then some value else lookup key rest

/-- The entry called `key`. -/
def find? (table : Table α) (key : String) : Option α := lookup key table.entries

/-- Whether there is an entry called `key`. -/
def contains (table : Table α) (key : String) : Bool := (table.find? key).isSome

/-- The list with the entry called `key` put to `value`, in its old place or at the end. -/
def put (key : String) (value : α) : List (String × α) → List (String × α)
  | [] => [(key, value)]
  | (name, old) :: rest =>
    if name = key then (key, value) :: rest else (name, old) :: put key value rest

/-- The table with the entry called `key` put to `value`. -/
def insert (table : Table α) (key : String) (value : α) : Table α := ⟨put key value table.entries⟩

/-- The table without the entry called `key`. -/
def erase (table : Table α) (key : String) : Table α :=
  ⟨table.entries.filter fun entry => entry.1 != key⟩

/-- The table with an entry called `key`, which is `value` unless there was one. -/
def insertNew (table : Table α) (key : String) (value : α) : Table α :=
  if table.contains key then table else table.insert key value

/-- The table made by inserting the given entries one after the other. -/
def ofList (entries : List (String × α)) : Table α :=
  entries.foldl (fun table entry => table.insert entry.1 entry.2) empty

/-- The table with every entry replaced by its image. -/
def map (f : α → β) (table : Table α) : Table β :=
  ⟨table.entries.map fun entry => (entry.1, f entry.2)⟩

/-- The number of entries. -/
def size (table : Table α) : Nat := table.entries.length

/-- Whether there is no entry. -/
def isEmpty (table : Table α) : Bool := table.entries.isEmpty

/-! ### Looking up what was inserted -/

theorem lookup_put (key key' : String) (value : α) (entries : List (String × α)) :
    lookup key' (put key value entries) =
      if key = key' then some value else lookup key' entries := by
  induction entries with
  | nil => rfl
  | cons entry rest ih =>
    obtain ⟨name, old⟩ := entry
    by_cases h : name = key
    · subst h
      by_cases h' : name = key' <;> simp [put, lookup, h']
    · by_cases h' : name = key'
      · subst h'
        simp [put, lookup, h, Ne.symm h]
      · simp [put, lookup, h, h', ih]

/-- An inserted entry is found, and every other entry stays. -/
theorem find?_insert (table : Table α) (key key' : String) (value : α) :
    (table.insert key value).find? key' = if key = key' then some value else table.find? key' :=
  lookup_put key key' value table.entries

theorem keys_put (key : String) (value : α) (entries : List (String × α)) :
    (put key value entries).map Prod.fst =
      if key ∈ entries.map Prod.fst then entries.map Prod.fst
      else entries.map Prod.fst ++ [key] := by
  induction entries with
  | nil => rfl
  | cons entry rest ih =>
    obtain ⟨name, old⟩ := entry
    by_cases h : name = key
    · simp [put, h]
    · have h' : ¬ key = name := fun e => h e.symm
      by_cases hm : key ∈ rest.map Prod.fst <;> simp_all [put]

/-- An insertion adds its name at the end, unless the name is there already. -/
theorem keys_insert (table : Table α) (key : String) (value : α) :
    (table.insert key value).keys =
      if key ∈ table.keys then table.keys else table.keys ++ [key] :=
  keys_put key value table.entries

end Table

end ShaderLoom
