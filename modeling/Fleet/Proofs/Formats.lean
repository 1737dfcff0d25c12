import Fleet.Proofs.Instants
import Fleet.Proofs.JsonText
import Fleet.Proofs.Tables
import Fleet.Wire.Cluster
import Mathlib.Data.List.Nodup

/-!
# Formats

A format is a way to write values of a type and a way to read them. It is faithful if each proper value
has a written form that is read back as the value, and nothing else than a proper value is ever read.
Faithful formats are put together to those of lists, tables and fields.
-/

namespace Fleet

namespace Json

@[simp] theorem writable_null : Writable .null := .null

@[simp] theorem writable_bool (value : Bool) : Writable (.bool value) := .bool value

@[simp] theorem writable_str (value : String) : Writable (.str value) := .str value

@[simp] theorem writable_obj_iff {members : List (String × Json)} :
    Writable (.obj members) ↔ ∀ member ∈ members, Writable member.2 := by
  constructor
  · rintro ⟨⟩
    assumption
  · exact .obj

theorem writable_ofOption {α : Type} {write : α → Json} (h : ∀ value, Writable (write value))
    (value : Option α) : Writable (ofOption write value) := by
  cases value with
  | none => exact .null
  | some value => exact h value

end Json

namespace Wire

/-! ## Reading item by item -/

section

variable {α β : Type}

theorem mapM_map_eq_some {write : α → β} {read : β → Option α} {values : List α}
    (h : ∀ value ∈ values, read (write value) = some value) :
    (values.map write).mapM read = some values := by
  induction values with
  | nil => rfl
  | cons value values ih =>
    obtain ⟨hvalue, hvalues⟩ := List.forall_mem_cons.1 h
    simp [List.mapM_cons, hvalue, ih hvalues]

/-- Every value that is read in a list is read from one of its items. -/
theorem exists_of_mem_mapM {read : β → Option α} {items : List β} {values : List α}
    (h : items.mapM read = some values) {value : α} (hvalue : value ∈ values) :
    ∃ item ∈ items, read item = some value := by
  induction items generalizing values with
  | nil =>
    cases h
    cases hvalue
  | cons item items ih =>
    rw [List.mapM_cons] at h
    obtain ⟨first, hfirst, h⟩ := Option.bind_eq_some_iff.1 h
    obtain ⟨others, hothers, h⟩ := Option.bind_eq_some_iff.1 h
    cases h
    rcases List.mem_cons.1 hvalue with rfl | hvalue
    · exact ⟨item, List.mem_cons_self, hfirst⟩
    · obtain ⟨found, hfound, hread⟩ := ih hothers hvalue
      exact ⟨found, List.mem_cons_of_mem _ hfound, hread⟩

end

/-! ## Faithful formats -/

/-- A format whose proper values are those that it gives back. Null is left to say that there is no
value. -/
structure Faithful {α : Type} (write : α → Json) (read : Json → Option α) (Proper : α → Prop) :
    Prop where
  writable : ∀ value, (write value).Writable
  ne_null : ∀ value, write value ≠ .null
  read_write : ∀ value, Proper value → read (write value) = some value
  proper : ∀ json value, read json = some value → Proper value

namespace Faithful

variable {α : Type} {write : α → Json} {read : Json → Option α} {Proper : α → Prop}

theorem list (h : Faithful write read Proper) :
    Faithful (Json.ofList write) (list? read) fun values => ∀ value ∈ values, Proper value where
  writable values := .arr fun item hitem => by
    obtain ⟨value, -, rfl⟩ := List.mem_map.1 hitem
    exact h.writable value
  ne_null _ := nofun
  read_write values hvalues :=
    mapM_map_eq_some fun value hvalue => h.read_write value (hvalues value hvalue)
  proper json values hread value hvalue := by
    cases json with
    | arr items =>
      obtain ⟨item, -, hitem⟩ := exists_of_mem_mapM hread hvalue
      exact h.proper item value hitem
    | _ => cases hread

theorem table (h : Faithful write read Proper) :
    Faithful (ofTable write) (table? read) fun table => ∀ entry ∈ table.entries, Proper entry.2 where
  writable table := .obj fun member hmember => by
    obtain ⟨entry, -, rfl⟩ := List.mem_map.1 hmember
    exact h.writable entry.2
  ne_null _ := nofun
  read_write table hvalues := by
    have hentries : (table.entries.map fun entry => (entry.1, write entry.2)).mapM
        (fun member => (read member.2).map (member.1, ·)) = some table.entries :=
      mapM_map_eq_some fun entry hentry => by
        rw [h.read_write entry.2 (hvalues entry hentry), Option.map_some]
    rw [ofTable, table?, hentries, Option.map_some, Table.ofList_entries]
  proper json table hread entry hentry := by
    cases json with
    | obj members =>
      obtain ⟨pairs, hpairs, rfl⟩ := Option.map_eq_some_iff.1 hread
      obtain ⟨member, -, hmember⟩ := exists_of_mem_mapM hpairs (Table.mem_entries_ofList hentry)
      obtain ⟨value, hvalue, rfl⟩ := Option.map_eq_some_iff.1 hmember
      exact h.proper member.2 value hvalue
    | _ => cases hread

/-! ## Fields -/

section

variable {β : Type} {fields : Fields} {name : String} {next : α → Option β} {result : β}

/-- A field is read back, and reading goes on. -/
theorem required (h : Faithful write read Proper) {base value : α} (hvalue : Proper value)
    (hfind : fields.find? name = some (write value)) (hnext : next value = some result) :
    (fields.required name base read >>= next) = some result := by
  have hread : fields.required name base read = some value := by
    simp only [Fields.required, hfind]
    exact h.read_write value hvalue
  rw [hread]
  exact hnext

theorem optional (h : Faithful write read Proper) {base value : Option α} {next : Option α → Option β}
    (hvalue : ∀ given ∈ value, Proper given) (hfind : fields.find? name = some (.ofOption write value))
    (hnext : next value = some result) : (fields.optional name base read >>= next) = some result := by
  have hread : fields.optional name base read = some value := by
    cases value with
    | none => simp only [Fields.optional, hfind, Json.ofOption]
    | some given =>
      rw [Fields.optional, hfind, Json.ofOption]
      split
      · rename_i hnull
        exact absurd (Option.some.inj hnull) (h.ne_null given)
      · rename_i hsome
        cases hsome
        rw [h.read_write given (hvalue given rfl), Option.map_some]
      · rename_i hnone
        cases hnone
  rw [hread]
  exact hnext

/-- What is read in a field is proper if its base is. -/
theorem proper_of_required (h : Faithful write read Proper) {base value : α} (hbase : Proper base)
    (hread : fields.required name base read = some value) : Proper value := by
  unfold Fields.required at hread
  split at hread
  · exact h.proper _ value hread
  · split at hread
    · cases hread
      exact hbase
    · cases hread

theorem proper_of_optional (h : Faithful write read Proper) {value : Option α}
    (hread : fields.optional name none read = some value) : ∀ given ∈ value, Proper given := by
  rintro given ⟨⟩
  unfold Fields.optional at hread
  split at hread
  · cases hread
  · obtain ⟨found, hfound, heq⟩ := Option.map_eq_some_iff.1 hread
    cases heq
    exact h.proper _ given hfound
  · rw [ite_self] at hread
    cases hread

end

end Faithful

/-- The members of a written record are found again as its fields, since each has a name of its own. -/
theorem fields_of_obj {β : Type} {names : List String} {members : List (String × Json)}
    {next : Fields → Option β} {result : β} (hnames : members.map Prod.fst = names)
    (hnodup : names.Nodup) (hnext : next ⟨.exact, members⟩ = some result) :
    (fields? .exact names (.obj members) >>= next) = some result := by
  have honce : noneRepeated names members = true := by
    refine List.all_eq_true.2 fun name _ => decide_eq_true ?_
    calc (members.filter (·.1 = name)).length = names.count name := by
          rw [← hnames, List.count, List.countP_map, List.countP_eq_length_filter]
          rfl
      _ ≤ 1 := List.nodup_iff_count_le_one.1 hnodup name
  simp only [fields?, honce, if_true]
  exact hnext

/-! ## Simple values -/

theorem faithful_text : Faithful .str text? fun _ => True where
  writable := .str
  ne_null _ := nofun
  read_write _ _ := rfl
  proper _ _ _ := trivial

theorem faithful_bool : Faithful .bool bool? fun _ => True where
  writable := .bool
  ne_null _ := nofun
  read_write _ _ := rfl
  proper _ _ _ := trivial

theorem faithful_int32 : Faithful ofInt32 int32? fun _ => True where
  writable _ := .int _
  ne_null _ := nofun
  read_write n _ := by
    rw [ofInt32, int32?, int?, if_pos ⟨n.minValue_le_toInt, n.toInt_le⟩, Option.map_some, Int32.ofInt_toInt]
  proper _ _ _ := trivial

theorem faithful_instant : Faithful ofInstant instant? Instant.OnClock where
  writable _ := .str _
  ne_null _ := nofun
  read_write _ h := Instant.read?_write h
  proper json t h := by
    cases json with
    | str s => exact Instant.onClock_of_read? h
    | _ => cases h

/-- Labels that differ tell values apart. -/
theorem faithful_labelled {α : Type} {values : List α} {label : α → String}
    (hlabel : ∀ value, values.find? (label · = label value) = some value) :
    Faithful (fun value => .str (label value)) (labelled? values label) fun _ => True where
  writable _ := .str _
  ne_null _ := nofun
  read_write value _ := hlabel value
  proper _ _ _ := trivial

end Wire

end Fleet
