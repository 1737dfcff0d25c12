import Fleet.Table

/-!
# Looking up in tables

What a lookup finds after a table has changed.
-/

namespace Fleet.Table

variable {α β : Type}

theorem lookup_insertEntry_self (key : String) (value : α) (entries : List (String × α)) :
    (insertEntry key value entries).lookup key = some value := by
  induction entries with
  | nil => simp [insertEntry]
  | cons head rest ih =>
    obtain ⟨k, v⟩ := head
    simp only [insertEntry]
    split
    · simp
    · split
      · simp
      · rename_i hne
        have hbeq : (key == k) = false := by simpa using hne
        simpa only [List.lookup_cons, hbeq] using ih

theorem lookup_insertEntry_of_ne {key other : String} (value : α) (h : other ≠ key)
    (entries : List (String × α)) :
    (insertEntry key value entries).lookup other = entries.lookup other := by
  have hbeq : (other == key) = false := by simpa using h
  induction entries with
  | nil => simp only [insertEntry, List.lookup_cons, hbeq]
  | cons head rest ih =>
    obtain ⟨k, v⟩ := head
    simp only [insertEntry]
    split
    · simp only [List.lookup_cons, hbeq]
    · split
      · rename_i heq
        subst heq
        simp only [List.lookup_cons, hbeq]
      · simp only [List.lookup_cons, ih]

@[simp] theorem get?_empty (key : String) : (empty : Table α).get? key = none := rfl

@[simp] theorem get?_insert_self (table : Table α) (key : String) (value : α) :
    (table.insert key value).get? key = some value :=
  lookup_insertEntry_self key value table.entries

theorem get?_insert_of_ne (table : Table α) {key other : String} (value : α) (h : other ≠ key) :
    (table.insert key value).get? other = table.get? other :=
  lookup_insertEntry_of_ne value h table.entries

theorem get?_insert (table : Table α) (key other : String) (value : α) :
    (table.insert key value).get? other = if other = key then some value else table.get? other := by
  split
  · subst_vars
    exact get?_insert_self table _ value
  · exact get?_insert_of_ne table value ‹_›

/-- The entries of a table are what its lookups find. -/
theorem get?_eq_some_iff (table : Table α) (key : String) (value : α) :
    table.get? key = some value ↔ (key, value) ∈ table.entries := by
  obtain ⟨entries, ascending⟩ := table
  simp only [get?]
  induction entries with
  | nil => simp
  | cons head rest ih =>
    have hhead := (List.pairwise_cons.1 ascending).1
    have hrest := (List.pairwise_cons.1 ascending).2
    rw [List.lookup_cons, List.mem_cons]
    by_cases hkey : key = head.1
    · subst hkey
      have hnot : (head.1, value) ∉ rest := fun hmem => by
        have hlt := hhead _ hmem
        exact absurd hlt (String.lt_irrefl _)
      simp only [beq_self_eq_true, Option.some.injEq, hnot, or_false]
      constructor
      · rintro rfl
        rfl
      · intro heq
        rw [← heq]
    · have hne : (key, value) ≠ head := by
        rintro rfl
        exact hkey rfl
      have hbeq : (key == head.1) = false := by simp [hkey]
      rw [hbeq]
      simp only [hne, false_or]
      exact ih hrest

theorem get?_filter (table : Table α) (keep : String → α → Bool) (key : String) :
    (table.filter keep).get? key = (table.get? key).filter (keep key) := by
  ext value
  rw [get?_eq_some_iff]
  simp only [filter, List.mem_filter, Option.filter_eq_some_iff, ← get?_eq_some_iff]

theorem get?_erase (table : Table α) (key other : String) :
    (table.erase key).get? other = if other = key then none else table.get? other := by
  rw [erase, get?_filter]
  by_cases h : other = key <;> cases hget : table.get? other <;> simp [h]

end Fleet.Table
