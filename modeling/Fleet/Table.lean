/-!
# Tables

A finite map from strings to values, kept as a list of pairs whose keys ascend by code point. The
order is part of the type, so two tables with the same entries are the same table, and what is
listed comes out ordered by key.
-/

namespace Fleet

/-- The pair replaces the one of its key, or goes in at its place in the order. -/
def insertEntry {α : Type} (key : String) (value : α) : List (String × α) → List (String × α)
  | [] => [(key, value)]
  | entry :: rest =>
    if key < entry.1 then (key, value) :: entry :: rest
    else if key = entry.1 then (key, value) :: rest
    else entry :: insertEntry key value rest

theorem mem_insertEntry {α : Type} {key : String} {value : α} {entry : String × α}
    {entries : List (String × α)} (h : entry ∈ insertEntry key value entries) :
    entry = (key, value) ∨ entry ∈ entries := by
  induction entries with
  | nil => simpa [insertEntry] using h
  | cons head rest ih =>
    simp only [insertEntry] at h
    split at h
    · simpa using h
    · split at h
      · simp only [List.mem_cons] at h ⊢
        rcases h with h | h
        · exact .inl h
        · exact .inr (.inr h)
      · simp only [List.mem_cons] at h ⊢
        rcases h with h | h
        · exact .inr (.inl h)
        · rcases ih h with h | h
          · exact .inl h
          · exact .inr (.inr h)

/-- Keys ascend, so no key occurs twice. -/
abbrev Ascending {α : Type} (entries : List (String × α)) : Prop :=
  entries.Pairwise (fun a b => a.1 < b.1)

theorem ascending_insertEntry {α : Type} (key : String) (value : α)
    {entries : List (String × α)} (h : Ascending entries) :
    Ascending (insertEntry key value entries) := by
  induction entries with
  | nil => simp [Ascending, insertEntry]
  | cons head rest ih =>
    have hhead := (List.pairwise_cons.1 h).1
    have hrest := (List.pairwise_cons.1 h).2
    simp only [insertEntry]
    split
    · rename_i hlt
      refine List.pairwise_cons.2 ⟨fun entry hentry => ?_, h⟩
      rcases List.mem_cons.1 hentry with rfl | hentry
      · exact hlt
      · exact String.lt_trans hlt (hhead entry hentry)
    · rename_i hge
      split
      · rename_i heq
        exact List.pairwise_cons.2 ⟨fun entry hentry => heq ▸ hhead entry hentry, hrest⟩
      · rename_i hne
        refine List.pairwise_cons.2 ⟨fun entry hentry => ?_, ih hrest⟩
        rcases mem_insertEntry hentry with rfl | hentry
        · show head.1 < key
          grind
        · exact hhead entry hentry

/-- A finite map from strings to `α`. -/
structure Table (α : Type) where
  entries : List (String × α)
  ascending : Ascending entries
deriving DecidableEq

namespace Table

variable {α β : Type}

/-- The table without entries. -/
def empty : Table α := ⟨[], .nil⟩

instance : Inhabited (Table α) := ⟨empty⟩
instance : EmptyCollection (Table α) := ⟨empty⟩

/-- The value kept under `key`. -/
def get? (table : Table α) (key : String) : Option α :=
  table.entries.lookup key

/-- Whether something is kept under `key`. -/
def contains (table : Table α) (key : String) : Bool :=
  (table.get? key).isSome

/-- Keep `value` under `key`, in place of what was kept there. -/
def insert (table : Table α) (key : String) (value : α) : Table α :=
  ⟨insertEntry key value table.entries, ascending_insertEntry key value table.ascending⟩

/-- The entries that pass a test. -/
def filter (table : Table α) (keep : String → α → Bool) : Table α :=
  ⟨table.entries.filter (fun entry => keep entry.1 entry.2), table.ascending.filter _⟩

/-- Keep nothing under `key`. -/
def erase (table : Table α) (key : String) : Table α :=
  table.filter (fun k _ => k ≠ key)

/-- The values, by key. -/
def values (table : Table α) : List α :=
  table.entries.map (·.2)

/-- The keys, ascending. -/
def keys (table : Table α) : List String :=
  table.entries.map (·.1)

/-- How many keys the table holds. -/
def size (table : Table α) : Nat :=
  table.entries.length

/-- Whether the table holds nothing. -/
def isEmpty (table : Table α) : Bool :=
  table.entries.isEmpty

/-- Insert pairs from left to right, so that the last of a key wins. -/
def insertMany (table : Table α) (pairs : List (String × α)) : Table α :=
  pairs.foldl (fun t pair => t.insert pair.1 pair.2) table

/-- The table of a list of pairs; the last of a key wins. -/
def ofList (pairs : List (String × α)) : Table α :=
  empty.insertMany pairs

/-- Change each value, keeping its key. -/
def map (f : String → α → β) (table : Table α) : Table β :=
  ⟨table.entries.map (fun entry => (entry.1, f entry.1 entry.2)), by
    have h := table.ascending
    unfold Ascending at h ⊢
    rw [List.pairwise_map]
    exact h⟩

end Table

end Fleet
