import Fleet.Table.Lookup

/-!
# Tables as functions

A table is determined by what its lookups find, so equations between tables are shown key by key.
-/

namespace Fleet.Table

variable {α : Type}

theorem nodup_entries (table : Table α) : table.entries.Nodup := by
  refine table.ascending.imp ?_
  rintro a b hlt rfl
  exact String.lt_irrefl _ hlt

theorem nodup_keys (table : Table α) : table.keys.Nodup := by
  unfold keys List.Nodup
  rw [List.pairwise_map]
  refine table.ascending.imp ?_
  rintro first second hlt heq
  rw [heq] at hlt
  exact String.lt_irrefl _ hlt

/-- The keys of a table are those under which it keeps something. -/
theorem mem_keys (table : Table α) (key : String) :
    key ∈ table.keys ↔ ∃ value, table.get? key = some value := by
  unfold keys
  rw [List.mem_map]
  constructor
  · rintro ⟨⟨_, value⟩, hentry, rfl⟩
    exact ⟨value, (table.get?_eq_some_iff _ value).2 hentry⟩
  · rintro ⟨value, hvalue⟩
    exact ⟨(key, value), (table.get?_eq_some_iff key value).1 hvalue, rfl⟩

/-- Tables that find the same values are the same table. -/
theorem ext_get? {left right : Table α} (h : ∀ key, left.get? key = right.get? key) :
    left = right := by
  have hperm : left.entries.Perm right.entries := by
    rw [List.perm_ext_iff_of_nodup left.nodup_entries right.nodup_entries]
    rintro ⟨key, value⟩
    rw [← get?_eq_some_iff, ← get?_eq_some_iff, h key]
  have hentries : left.entries = right.entries := by
    refine List.Perm.eq_of_pairwise ?_ left.ascending right.ascending hperm
    intro a b _ _ hab hba
    exact absurd (String.lt_trans hab hba) (String.lt_irrefl _)
  cases left
  cases right
  simp only at hentries
  subst hentries
  rfl

/-! ## Inserting many -/

theorem get?_insertMany_of_not_mem {pairs : List (String × α)} (table : Table α) {key : String}
    (h : ∀ value, (key, value) ∉ pairs) : (table.insertMany pairs).get? key = table.get? key := by
  unfold insertMany
  induction pairs generalizing table with
  | nil => rfl
  | cons first rest ih =>
    rw [List.foldl_cons, ih _ fun value hmem => h value (List.mem_cons_of_mem _ hmem)]
    apply get?_insert_of_ne
    rintro rfl
    exact h first.2 List.mem_cons_self

/-- A key that all its pairs give one value has it afterwards. -/
theorem get?_insertMany_of_mem {pairs : List (String × α)} (table : Table α) {key : String} {value : α}
    (hmem : (key, value) ∈ pairs) (hsame : ∀ other, (key, other) ∈ pairs → other = value) :
    (table.insertMany pairs).get? key = some value := by
  induction pairs generalizing table with
  | nil => cases hmem
  | cons first rest ih =>
    change ((table.insert first.1 first.2).insertMany rest).get? key = some value
    by_cases hrest : (key, value) ∈ rest
    · exact ih _ hrest fun other hother => hsame other (List.mem_cons_of_mem _ hother)
    · have hfirst : (key, value) = first := (List.mem_cons.1 hmem).resolve_right hrest
      rw [get?_insertMany_of_not_mem, ← hfirst, get?_insert_self]
      intro other hother
      rw [hsame other (List.mem_cons_of_mem _ hother)] at hother
      exact hrest hother

/-- The entries of another table go in front of what was there. -/
theorem get?_insertMany_entries (table other : Table α) (key : String) :
    (table.insertMany other.entries).get? key = (other.get? key).or (table.get? key) := by
  cases hother : other.get? key with
  | none =>
    rw [Option.none_or]
    refine get?_insertMany_of_not_mem table fun value hmem => ?_
    rw [(get?_eq_some_iff _ _ _).2 hmem] at hother
    cases hother
  | some value =>
    rw [Option.some_or]
    refine get?_insertMany_of_mem table ((get?_eq_some_iff _ _ _).1 hother) fun another hmem => ?_
    rw [(get?_eq_some_iff _ _ _).2 hmem] at hother
    exact Option.some.inj hother

/-- A table is the table of its entries. -/
theorem ofList_entries (table : Table α) : ofList table.entries = table :=
  ext_get? fun key => by rw [ofList, get?_insertMany_entries, get?_empty, Option.or_none]

theorem mem_entries_insertMany {pairs : List (String × α)} {table : Table α} {entry : String × α}
    (h : entry ∈ (table.insertMany pairs).entries) : entry ∈ pairs ∨ entry ∈ table.entries := by
  induction pairs generalizing table with
  | nil => exact .inr h
  | cons first rest ih =>
    change entry ∈ ((table.insert first.1 first.2).insertMany rest).entries at h
    rcases ih h with h | h
    · exact .inl (List.mem_cons_of_mem _ h)
    · rcases mem_insertEntry h with rfl | h
      · exact .inl List.mem_cons_self
      · exact .inr h

/-- The table of a list has no other entries. -/
theorem mem_entries_ofList {pairs : List (String × α)} {entry : String × α}
    (h : entry ∈ (ofList pairs).entries) : entry ∈ pairs :=
  (mem_entries_insertMany h).resolve_right List.not_mem_nil

/-- The entries of two tables without a common key go in in any order. -/
theorem insertMany_comm_of_disjoint (table : Table α) {first second : Table α}
    (h : ∀ key ∈ first.keys, key ∉ second.keys) :
    (table.insertMany first.entries).insertMany second.entries =
      (table.insertMany second.entries).insertMany first.entries := by
  apply ext_get?
  intro key
  rw [get?_insertMany_entries, get?_insertMany_entries, get?_insertMany_entries,
    get?_insertMany_entries]
  cases hfirst : first.get? key with
  | none => rw [Option.none_or, Option.none_or]
  | some value =>
    cases hsecond : second.get? key with
    | none => rw [Option.none_or, Option.none_or]
    | some other =>
      have hmem := List.mem_map_of_mem (f := Prod.fst) ((get?_eq_some_iff _ _ _).1 hfirst)
      have hmem' := List.mem_map_of_mem (f := Prod.fst) ((get?_eq_some_iff _ _ _).1 hsecond)
      exact absurd hmem' (h key hmem)

theorem insertMany_insertMany_self (table other : Table α) :
    (table.insertMany other.entries).insertMany other.entries = table.insertMany other.entries := by
  apply ext_get?
  intro key
  rw [get?_insertMany_entries, get?_insertMany_entries]
  cases other.get? key <;> rfl

theorem insert_insert_self (table : Table α) (key : String) (first second : α) :
    (table.insert key first).insert key second = table.insert key second := by
  apply ext_get?
  intro other
  rw [get?_insert, get?_insert, get?_insert]
  split <;> rfl

/-! ## Filtering -/

section

variable (table : Table α) {keep : String → α → Bool} {key : String} {value : α}

theorem filter_insert_of_kept (h : keep key value = true) :
    (table.insert key value).filter keep = (table.filter keep).insert key value := by
  apply ext_get?
  intro other
  rw [get?_filter, get?_insert, get?_insert, get?_filter]
  split
  · rename_i heq
    simp [heq, h]
  · rfl

/-- What is dropped may be written in place of what is dropped. -/
theorem filter_insert_of_dropped (h : keep key value = false)
    (hheld : ∀ held, table.get? key = some held → keep key held = false) :
    (table.insert key value).filter keep = table.filter keep := by
  apply ext_get?
  intro other
  rw [get?_filter, get?_insert, get?_filter]
  split
  · rename_i heq
    subst heq
    have hnone : (some value).filter (keep other) = none := Option.filter_some_neg (by simp [h])
    rw [hnone]
    cases hget : table.get? other with
    | none => rfl
    | some held => exact (Option.filter_some_neg (by simp [hheld held hget])).symm
  · rfl

/-- A filter that is passed by all that pass a second one makes no difference to that. -/
theorem filter_filter_of_imp {other : String → α → Bool}
    (h : ∀ key value, keep key value = true → other key value = true) :
    (table.filter other).filter keep = table.filter keep := by
  apply ext_get?
  intro asked
  rw [get?_filter, get?_filter, get?_filter, Option.filter_filter]
  congr 1
  funext value
  cases hkeep : keep asked value with
  | false => simp
  | true => simp [h asked value hkeep]

end

theorem values_filter (table : Table α) (keep : α → Bool) :
    (table.filter fun _ value => keep value).values = table.values.filter keep := by
  unfold values filter
  rw [List.filter_map]
  rfl

/-! ## Changing every value -/

theorem get?_map {β : Type} (table : Table α) (f : String → α → β) (key : String) :
    (table.map f).get? key = (table.get? key).map (f key) := by
  ext value
  rw [get?_eq_some_iff, Option.map_eq_some_iff]
  simp only [map, List.mem_map, get?_eq_some_iff]
  constructor
  · rintro ⟨⟨other, held⟩, hentry, heq⟩
    cases heq
    exact ⟨held, hentry, rfl⟩
  · rintro ⟨held, hentry, rfl⟩
    exact ⟨(key, held), hentry, rfl⟩

theorem values_map {β : Type} (table : Table α) (f : α → β) :
    (table.map fun _ value => f value).values = table.values.map f := by
  unfold values map
  rw [List.map_map, List.map_map]
  rfl

/-! ## Changing one value -/

/-- Change what is kept under a key, if something is. -/
def change (table : Table α) (key : String) (f : α → α) : Table α :=
  match table.get? key with
  | some value => table.insert key (f value)
  | none => table

variable {key other : String} {f g : α → α}

theorem change_of_get? {table : Table α} {value : α} (h : table.get? key = some value) (f : α → α) :
    table.change key f = table.insert key (f value) := by
  unfold change
  rw [h]

theorem change_of_absent {table : Table α} (h : table.get? key = none) (f : α → α) :
    table.change key f = table := by
  unfold change
  rw [h]

theorem get?_change (table : Table α) (key other : String) (f : α → α) :
    (table.change key f).get? other =
      if other = key then (table.get? key).map f else table.get? other := by
  unfold change
  cases hget : table.get? key with
  | none =>
    dsimp only
    split
    · rename_i heq
      rw [heq, hget]
      rfl
    · rfl
  | some value => exact get?_insert table key other (f value)

/-- A change keeps every key. -/
theorem isSome_get?_change (table : Table α) (key other : String) (f : α → α) :
    ((table.change key f).get? other).isSome = (table.get? other).isSome := by
  rw [get?_change]
  split
  · rename_i heq
    rw [Option.isSome_map, heq]
  · rfl

theorem insert_change_self (table : Table α) (key : String) (f : α → α) (value : α) :
    (table.change key f).insert key value = table.insert key value := by
  unfold change
  cases table.get? key with
  | none => rfl
  | some _ => exact insert_insert_self table key _ _

/-- Changes under different keys come in any order, and so do those that commute. -/
theorem change_comm (table : Table α)
    (h : key = other → ∀ value, table.get? key = some value → g (f value) = f (g value)) :
    (table.change key f).change other g = (table.change other g).change key f := by
  apply ext_get?
  intro asked
  simp only [get?_change]
  by_cases hkey : key = other
  · subst hkey
    split
    · cases hget : table.get? key with
      | none => simp
      | some value => simpa using h rfl value hget
    · rfl
  · by_cases hfirst : asked = key
    · simp [hfirst, hkey]
    · simp [hfirst, Ne.symm hkey]

/-- A change that has come to its end changes nothing more. -/
theorem change_change_self (table : Table α)
    (h : ∀ value, table.get? key = some value → f (f value) = f value) :
    (table.change key f).change key f = table.change key f := by
  apply ext_get?
  intro asked
  simp only [get?_change]
  split
  · cases hget : table.get? key with
    | none => simp
    | some value => simpa using h value hget
  · rfl

end Fleet.Table
