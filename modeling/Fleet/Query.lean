import Fleet.Cluster

/-!
# Queries

Searches by exact values. A cluster matches if it meets every criterion, so the empty query matches
them all.
-/

namespace Fleet

/-- The criteria of a search. -/
structure Query where
  /-- Any of these ids; no criterion if there are none. -/
  ids : List String := []
  name : Option String := none
  /-- All of these labels. -/
  labels : Table String := .empty
  sensor : Option HealthLevel := none
deriving DecidableEq, Inhabited

namespace Query

/-- Whether the query has no criterion. -/
def isUnrestricted (query : Query) : Bool :=
  query.ids.isEmpty && query.name.isNone && query.labels.isEmpty && query.sensor.isNone

/-- Whether a cluster meets every criterion. -/
def accepts (query : Query) (cluster : Cluster) : Bool :=
  (query.ids.isEmpty || query.ids.contains cluster.id)
    && query.name.all (· = cluster.name)
    && query.labels.entries.all (fun label => cluster.labels.get? label.1 = some label.2)
    && query.sensor.all (fun level => cluster.health.bind (·.sensor) = some level)

end Query

/-- A search hit. -/
structure Hit where
  id : String
  name : String
deriving DecidableEq

namespace Hit

/-- The hit for a cluster. -/
def ofCluster (cluster : Cluster) : Hit := ⟨cluster.id, cluster.name⟩

/-- Names first, ids among equal names. Hits come by name only; the index may list namesakes in any order,
and their ids settle it here. -/
def before (a b : Hit) : Bool :=
  a.name < b.name || (a.name = b.name && a.id ≤ b.id)

end Hit

end Fleet
