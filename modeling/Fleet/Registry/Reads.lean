import Fleet.Registry.Records

/-!
# Reading

Questions to the registry. What they may see depends on the scope; lists leave out what the scope may
not read, while a question about one cluster is refused. Health and priority are attached on the way
out, and a failure to find the health only leaves it open.
-/

namespace Fleet.Registry

open Calls

/-- Fail unless the scope may read the cluster. -/
def ensureRead (scope : Scope) (id : String) : Action Unit := do
  unless ← mayRead scope (named? id) do throw (.denied id)

/-- Fail unless the scope may write the cluster. -/
def ensureWrite (scope : Scope) (id : String) : Action Unit := do
  unless ← mayWrite scope (named? id) do throw (.denied id)

/-- Attach health, as far as it can be found, and priority. -/
def decorate (clusters : List Cluster) : Action (List Cluster) := do
  let found ← (findHealth (clusters.map (·.id))).attempt
  let holdings := (← get).holdings
  return (Cluster.populate found clusters).map fun cluster =>
    { cluster with priority := holdings.rankOf cluster.id }

/-- The record of a cluster. -/
def read (scope : Scope) (id : String) : Action Cluster := do
  ensureRead scope id
  let cluster ← load id
  return (← decorate [cluster]).headD cluster

/-- Whether a cluster is registered. -/
def isRegistered (scope : Scope) (id : String) : Action Bool := do
  ensureRead scope id
  return (← get).directory.contains id

/-- The name of a cluster. -/
def nameOf (scope : Scope) (id : String) : Action (Option String) := do
  ensureRead scope id
  return (← get).directory.nameOf? id

/-- The hits that a scope may read, asked one by one. -/
def keepReadable (scope : Scope) : List Hit → Action (List Hit)
  | [] => return []
  | hit :: rest => do
    let allowed ← mayRead scope (some hit.id)
    let others ← keepReadable scope rest
    return if allowed then hit :: others else others

/-- The hits that a scope may read; it asks for each one only if it may not read them all. -/
def readable (scope : Scope) (hits : List Hit) : Action (List Hit) := do
  if ← mayRead scope none then return hits
  else keepReadable scope hits

/-- The ids and names of the clusters that match. -/
def search (scope : Scope) (query : Query) : Action (List Hit) := do
  readable scope (← searchIndex query)

/-- The records of hits, as far as they are still stored. -/
def recordsOf : List Hit → Action (List Cluster)
  | [] => return []
  | hit :: rest => do
    let found ← findCluster hit.id
    return found.toList ++ (← recordsOf rest)

/-- The records of the clusters that match, ordered as they are in the index. The index lists namesakes in
an order that is left open, so records of one name that come next to each other are shown by id. -/
def searchRecords (scope : Scope) (query : Query) : Action (List Cluster) := do
  decorate (Cluster.orderNamesakes (← recordsOf (← search scope query)))

/-- Every record. -/
def readAll (scope : Scope) : Action (List Cluster) := do
  if ← mayRead scope none then decorate (← allClusters)
  else searchRecords scope {}

/-- How many clusters match. -/
def count (scope : Scope) (query : Query) : Action Nat := do
  if query.isUnrestricted then
    if ← mayRead scope none then return ← countClusters
  return (← search scope query).length

end Fleet.Registry
