import Fleet.Table

/-!
# Access

Who may read and write which clusters. The system itself may do everything; everyone else has what
was granted to them, for one cluster or for all. Who may write all clusters may read them too.
-/

namespace Fleet

/-- On whose behalf a call is made. -/
inductive Scope where
  | system
  | subject (name : String)
deriving DecidableEq, Repr, Inhabited

/-- The name a scope goes by. -/
def Scope.subjectName : Scope → String
  | system => "system"
  | subject name => name

/-- What a subject was granted. -/
structure Grant where
  readAll : Bool := false
  writeAll : Bool := false
  readable : List String := []
  writable : List String := []
deriving DecidableEq, Inhabited

namespace Grant

/-- Whether the grant covers reading the cluster, or all clusters if none is named. -/
def coversRead (grant : Grant) (cluster : Option String) : Bool :=
  grant.readAll || grant.writeAll || cluster.any grant.readable.contains

/-- Whether the grant covers writing the cluster, or all clusters if none is named. -/
def coversWrite (grant : Grant) (cluster : Option String) : Bool :=
  grant.writeAll || cluster.any grant.writable.contains

end Grant

/-- What can be granted. -/
inductive Permission where
  | all
  | readAll
  | read (cluster : String)
  | write (cluster : String)
deriving DecidableEq, Repr

/-- What has been granted, by subject. -/
abbrev Grants := Table Grant

namespace Grants

/-- Grant a permission to a subject. -/
def grant (grants : Grants) (subject : String) (permission : Permission) : Grants :=
  let held := (grants.get? subject).getD default
  grants.insert subject <| match permission with
    | .all => { held with readAll := true, writeAll := true }
    | .readAll => { held with readAll := true }
    | .read cluster => { held with readable := held.readable.insert cluster }
    | .write cluster => { held with writable := held.writable.insert cluster }

/-- Whether a scope may read the cluster, or all clusters if none is named. -/
def mayRead (grants : Grants) (scope : Scope) (cluster : Option String) : Bool :=
  match scope with
  | .system => true
  | .subject name => (grants.get? name).any (·.coversRead cluster)

/-- Whether a scope may write the cluster, or all clusters if none is named. -/
def mayWrite (grants : Grants) (scope : Scope) (cluster : Option String) : Bool :=
  match scope with
  | .system => true
  | .subject name => (grants.get? name).any (·.coversWrite cluster)

end Grants

/-- The cluster that an id names; the empty id stands for all clusters. -/
def named? (id : String) : Option String :=
  if id = "" then none else some id

end Fleet
