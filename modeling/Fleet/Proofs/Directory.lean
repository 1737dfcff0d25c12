import Fleet.Directory
import Fleet.Proofs.Tables

/-!
# What the directory answers

The two directions of the directory answer for the same pairs, and both are known once the names by
id are.
-/

namespace Fleet.Directory

/-- A name leads to an id if and only if the id has that name. -/
theorem idOf?_eq_some_iff (directory : Directory) (name id : String) :
    directory.idOf? name = some id ↔ directory.nameOf? id = some name :=
  directory.twoWay id name

theorem idOf?_eq_none_iff (directory : Directory) (name : String) :
    directory.idOf? name = none ↔ ∀ id, directory.nameOf? id ≠ some name := by
  rw [Option.eq_none_iff_forall_ne_some]
  simp only [ne_eq, idOf?_eq_some_iff]

/-- Directories that give every id the same name are the same directory. -/
theorem ext_nameOf? {left right : Directory} (h : ∀ id, left.nameOf? id = right.nameOf? id) :
    left = right := by
  have hnames : left.names = right.names := Table.ext_get? h
  have howners : left.owners = right.owners := by
    apply Table.ext_get?
    intro name
    apply Option.ext
    intro id
    have hid : left.idOf? name = some id ↔ right.idOf? name = some id := by
      rw [idOf?_eq_some_iff, idOf?_eq_some_iff, h]
    exact hid
  obtain ⟨⟨names, owners⟩, _⟩ := left
  obtain ⟨⟨names', owners'⟩, _⟩ := right
  subst hnames howners
  rfl

/-- An entered pair drives out the names equal to its own. -/
theorem nameOf?_insert (directory : Directory) (id name other : String) :
    (directory.insert id name).nameOf? other =
      if other = id then some name else (directory.nameOf? other).filter (· ≠ name) :=
  directory.twoWay.nameOf?_insert id name other

theorem nameOf?_erase (directory : Directory) (id other : String) :
    (directory.erase id).nameOf? other = if other = id then none else directory.nameOf? other :=
  directory.nameOf?_dropId id other

/-- Entering a name that nobody else has leaves the names of all others. -/
theorem nameOf?_insert_of_free {directory : Directory} {id name : String}
    (hfree : ∀ other, directory.nameOf? other = some name → other = id) (other : String) :
    (directory.insert id name).nameOf? other =
      if other = id then some name else directory.nameOf? other := by
  rw [nameOf?_insert]
  split
  · rfl
  · rename_i hne
    cases hheld : directory.nameOf? other with
    | none => rfl
    | some held =>
      have hother : held ≠ name := fun heq => hne (hfree other (heq ▸ hheld))
      exact Option.filter_some_pos (by simpa using hother)

/-- Entering a pair that is there changes nothing. -/
theorem insert_of_nameOf? {directory : Directory} {id name : String}
    (h : directory.nameOf? id = some name) : directory.insert id name = directory := by
  have hfree : ∀ other, directory.nameOf? other = some name → other = id := by
    intro other hother
    rw [← idOf?_eq_some_iff] at h hother
    rw [h] at hother
    exact (Option.some.inj hother).symm
  apply ext_nameOf?
  intro other
  rw [nameOf?_insert_of_free hfree]
  split
  · rename_i heq
    rw [heq, h]
  · rfl

end Fleet.Directory
