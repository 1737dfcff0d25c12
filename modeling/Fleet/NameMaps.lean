import Fleet.Table.Lookup

/-!
# Two maps of names

Ids and names are looked up in two maps, one for each direction, and both are written on every change.
An entered pair drives out what stood in its way: first the name that the id had, then the id that had
the name. Nothing in the maps themselves keeps them in step with each other; it is the order of the
writes that does.
-/

namespace Fleet

/-- The names by id, and the ids by name. -/
structure NameMaps where
  names : Table String := .empty
  owners : Table String := .empty
deriving DecidableEq

namespace NameMaps

/-- The name of an id. -/
def nameOf? (maps : NameMaps) (id : String) : Option String :=
  maps.names.get? id

/-- The id that goes by a name. -/
def idOf? (maps : NameMaps) (name : String) : Option String :=
  maps.owners.get? name

/-- Whether an id has a name. -/
def contains (maps : NameMaps) (id : String) : Bool :=
  maps.names.contains id

/-- How many ids have a name. -/
def size (maps : NameMaps) : Nat :=
  maps.names.size

/-- Whether no id has a name. -/
def isEmpty (maps : NameMaps) : Bool :=
  maps.size = 0

/-- Take an id out of the names, and the name that it had out of the owners. -/
def dropId (maps : NameMaps) (id : String) : NameMaps :=
  match maps.names.get? id with
  | none => maps
  | some name => { names := maps.names.erase id, owners := maps.owners.erase name }

/-- Take a name out of the owners, and the id that had it out of the names. -/
def dropName (maps : NameMaps) (name : String) : NameMaps :=
  match maps.owners.get? name with
  | none => maps
  | some id => { names := maps.names.erase id, owners := maps.owners.erase name }

/-- Write a pair into both maps. -/
def enter (maps : NameMaps) (id name : String) : NameMaps where
  names := maps.names.insert id name
  owners := maps.owners.insert name id

/-- Enter a pair, in place of the name that the id had and of the id that had the name. -/
def insert (maps : NameMaps) (id name : String) : NameMaps :=
  ((maps.dropId id).dropName name).enter id name

/-- Strike the pair of an id, and say which name it had. -/
def remove (maps : NameMaps) (id : String) : Option String × NameMaps :=
  (maps.names.get? id, maps.dropId id)

/-! ## The maps in step -/

/-- Both maps hold the same pairs. -/
def TwoWay (maps : NameMaps) : Prop :=
  ∀ id name, maps.idOf? name = some id ↔ maps.nameOf? id = some name

/-- The same with names and ids in each other's place. -/
def flip (maps : NameMaps) : NameMaps :=
  ⟨maps.owners, maps.names⟩

theorem dropName_eq_flip (maps : NameMaps) (name : String) :
    maps.dropName name = (maps.flip.dropId name).flip := by
  unfold dropName dropId
  change _ = flip (match maps.owners.get? name with
    | none => maps.flip
    | some id => ⟨maps.owners.erase name, maps.names.erase id⟩)
  cases maps.owners.get? name <;> rfl

theorem contains_iff (maps : NameMaps) (id : String) :
    maps.contains id = true ↔ ∃ name, maps.nameOf? id = some name :=
  Option.isSome_iff_exists

theorem nameOf?_dropId (maps : NameMaps) (id other : String) :
    (maps.dropId id).nameOf? other = if other = id then none else maps.nameOf? other := by
  unfold dropId
  cases hheld : maps.names.get? id with
  | none =>
    by_cases heq : other = id
    · rw [if_pos heq, heq]
      exact hheld
    · rw [if_neg heq]
  | some held => exact Table.get?_erase _ _ _

theorem idOf?_dropName (maps : NameMaps) (name other : String) :
    (maps.dropName name).idOf? other = if other = name then none else maps.idOf? other := by
  rw [dropName_eq_flip]
  exact nameOf?_dropId maps.flip name other

namespace TwoWay

variable {maps : NameMaps}

theorem empty : TwoWay {} := fun _ _ => iff_of_false nofun nofun

theorem flip (h : maps.TwoWay) : maps.flip.TwoWay := fun id name => (h name id).symm

/-- The name that is dropped with its id is the one that leads there, and no other. -/
theorem idOf?_dropId (h : maps.TwoWay) (id other name : String) :
    (maps.dropId id).idOf? name = some other ↔ maps.idOf? name = some other ∧ other ≠ id := by
  unfold dropId
  cases hheld : maps.names.get? id with
  | none =>
    refine ⟨fun hother => ⟨hother, ?_⟩, And.left⟩
    rintro rfl
    rw [h, nameOf?, hheld] at hother
    cases hother
  | some held =>
    change (maps.owners.erase held).get? name = some other ↔ _
    rw [Table.get?_erase]
    by_cases heq : name = held
    · have hid : maps.idOf? name = some id := (h id name).2 (heq ▸ hheld)
      rw [if_pos heq, hid, Option.some.injEq]
      exact iff_of_false nofun fun ⟨hsame, hne⟩ => hne hsame.symm
    · rw [if_neg heq]
      refine ⟨fun hother => ⟨hother, ?_⟩, And.left⟩
      rintro rfl
      rw [← idOf?, h, nameOf?, hheld] at hother
      exact heq (Option.some.inj hother).symm

theorem nameOf?_dropName (h : maps.TwoWay) (name id other : String) :
    (maps.dropName name).nameOf? id = some other ↔ maps.nameOf? id = some other ∧ other ≠ name := by
  rw [dropName_eq_flip]
  exact h.flip.idOf?_dropId name other id

theorem dropId (h : maps.TwoWay) (id : String) : (maps.dropId id).TwoWay := by
  intro other name
  rw [h.idOf?_dropId, h, nameOf?_dropId]
  by_cases heq : other = id
  · rw [if_pos heq]
    exact iff_of_false (fun hpair => hpair.2 heq) nofun
  · rw [if_neg heq]
    exact and_iff_left heq

theorem dropName (h : maps.TwoWay) (name : String) : (maps.dropName name).TwoWay := by
  rw [dropName_eq_flip]
  exact (h.flip.dropId name).flip

/-- A pair may be entered if neither its id nor its name is there. -/
theorem enter (h : maps.TwoWay) {id name : String} (hid : maps.nameOf? id = none)
    (hname : maps.idOf? name = none) : (maps.enter id name).TwoWay := by
  intro other given
  change (maps.owners.insert name id).get? given = some other ↔
    (maps.names.insert id name).get? other = some given
  rw [Table.get?_insert, Table.get?_insert]
  by_cases hother : other = id
  · by_cases hgiven : given = name
    · rw [if_pos hgiven, if_pos hother, hother, hgiven]
      exact iff_of_true rfl rfl
    · rw [if_neg hgiven, if_pos hother, ← idOf?, h, hother, hid, Option.some.injEq]
      exact iff_of_false nofun fun heq => hgiven heq.symm
  · by_cases hgiven : given = name
    · rw [if_pos hgiven, if_neg hother, ← nameOf?, ← h, hgiven, hname, Option.some.injEq]
      exact iff_of_false (fun heq => hother heq.symm) nofun
    · rw [if_neg hgiven, if_neg hother]
      exact h other given

/-- Neither the id nor the name is left by the time the pair is entered. -/
theorem insert (h : maps.TwoWay) (id name : String) : (maps.insert id name).TwoWay := by
  refine ((h.dropId id).dropName name).enter ?_ ?_
  · rw [Option.eq_none_iff_forall_ne_some]
    intro given hgiven
    rw [(h.dropId id).nameOf?_dropName, nameOf?_dropId, if_pos rfl] at hgiven
    cases hgiven.1
  · rw [idOf?_dropName, if_pos rfl]

/-- An entered pair drives out the names equal to its own. -/
theorem nameOf?_insert (h : maps.TwoWay) (id name other : String) :
    (maps.insert id name).nameOf? other =
      if other = id then some name else (maps.nameOf? other).filter (· ≠ name) := by
  change (((maps.dropId id).dropName name).names.insert id name).get? other = _
  rw [Table.get?_insert, ← nameOf?]
  by_cases heq : other = id
  · rw [if_pos heq, if_pos heq]
  · rw [if_neg heq, if_neg heq]
    ext given
    rw [(h.dropId id).nameOf?_dropName, nameOf?_dropId, if_neg heq, Option.filter_eq_some_iff,
      decide_eq_true_iff]

end TwoWay

end NameMaps

end Fleet
