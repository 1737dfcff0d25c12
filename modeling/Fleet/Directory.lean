import Fleet.NameMaps

/-!
# The directory of names

Which id goes by which name: two maps that are in step. No id has two names and no name two ids, since
a new pair takes the place of every pair that shares its id or its name.
-/

namespace Fleet

/-- A two-way directory of ids and names. -/
structure Directory extends NameMaps where
  twoWay : toNameMaps.TwoWay
deriving DecidableEq

namespace Directory

/-- The directory without pairs. -/
def empty : Directory := ⟨{}, .empty⟩

instance : Inhabited Directory := ⟨empty⟩

/-- Enter a pair, in place of all pairs that share its id or its name. -/
def insert (directory : Directory) (id name : String) : Directory :=
  ⟨directory.toNameMaps.insert id name, directory.twoWay.insert id name⟩

/-- Strike the pair of an id. -/
def erase (directory : Directory) (id : String) : Directory :=
  ⟨directory.dropId id, directory.twoWay.dropId id⟩

/-- Strike the pair of an id, and say which name it had. -/
def remove (directory : Directory) (id : String) : Option String × Directory :=
  (directory.nameOf? id, directory.erase id)

end Directory

end Fleet
