import Fleet.Health.Snapshots
import Fleet.Query
import Fleet.State

/-!
# Calls to the collaborators

The calls that the registry is made of: to the store of records, the index, the snapshots, the access
checker and the flow stores. Each one fails first of all if it is out of order; what it fails with
then is all that is seen of it.
-/

namespace Fleet.Calls

/-- Fail if a call for an id is out of order. -/
def expect (call : Call) (id : String) : Action Unit := do
  Action.conclude ((← get).conditions.check call id)

/-- Fail if a part is offline. -/
def expectOnline (part : Part) : Action Unit := do
  Action.conclude ((← get).conditions.checkPart part)

/-! ## Stored records -/

/-- The stored record of a cluster. -/
def findCluster (id : String) : Action (Option Cluster) := do
  expect .clusterGet id
  return (← get).clusters.get? id

/-- Store a record, in place of the one that had its id. -/
def putCluster (cluster : Cluster) : Action Unit := do
  expect .clusterPut cluster.id
  modify fun state => { state with clusters := state.clusters.insert cluster.id cluster.stored }

/-- Drop a stored record. -/
def dropCluster (id : String) : Action Unit := do
  expect .clusterDelete id
  modify fun state => { state with clusters := state.clusters.erase id }

/-- Every stored record, by name. -/
def allClusters : Action (List Cluster) := do
  expect .clusterWalk ""
  return (← get).clusters.values.mergeSort Cluster.before

/-- How many records are stored. -/
def countClusters : Action Nat := do
  expect .clusterCount ""
  return (← get).clusters.size

/-! ## Snapshots -/

/-- When the agent of a cluster was in contact last. -/
def lastContact (id : String) : Action (Option Instant) := do
  expect .healthGet id
  return Snapshots.lastContact (← get).holdings.health id

/-- Record a health report. -/
def recordHealth (id : String) (report : Health) : Action HealthUpdate := do
  expect .healthGet id
  let update := Snapshots.updated (← get).holdings.health id report
  expect .healthPut id
  modify fun state => { state with holdings := state.holdings.recordHealth id report }
  return update

/-- The snapshots of many clusters, and the positions of those without one. -/
def findHealth (ids : List String) : Action (List Health × List Nat) := do
  expect .healthGetMany ""
  return Snapshots.findMany (← get).holdings.health 0 ids

/-- Every snapshot. -/
def allHealth : Action Snapshots := do
  expect .healthWalk ""
  return (← get).holdings.health

/-! ## The index -/

/-- Index a record as it is given. -/
def indexCluster (cluster : Cluster) : Action Unit := do
  expect .indexAdd cluster.id
  expectOnline .index
  modify fun state => { state with index := state.index.insert cluster.id cluster }

/-- Index many records. -/
def indexClusters (clusters : List Cluster) : Action Unit := do
  expect .indexAddMany ""
  expectOnline .index
  let entries := clusters.map fun cluster => (cluster.id, cluster)
  modify fun state => { state with index := state.index.insertMany entries }

/-- Take a record out of the index. -/
def unindexCluster (id : String) : Action Unit := do
  expect .indexDelete id
  modify fun state => { state with index := state.index.erase id }

/-- What the index finds, by name. -/
def searchIndex (query : Query) : Action (List Hit) := do
  expect .indexSearch ""
  let found := (← get).index.filter fun _ indexed => query.accepts indexed
  return (found.entries.map fun entry => Hit.mk entry.1 entry.2.name).mergeSort Hit.before

/-! ## Access -/

/-- Whether a scope may read a cluster, or all of them if none is named. -/
def mayRead (scope : Scope) (cluster : Option String) : Action Bool := do
  expect .accessRead (cluster.getD "")
  return (← get).grants.mayRead scope cluster

/-- Whether a scope may write a cluster, or all of them if none is named. -/
def mayWrite (scope : Scope) (cluster : Option String) : Action Bool := do
  expect .accessWrite (cluster.getD "")
  return (← get).grants.mayWrite scope cluster

/-! ## Flow stores -/

/-- Give a cluster its flow store. -/
def createFlows (id : String) : Action Unit := do
  expect .flowCreate id
  expectOnline .flows
  modify fun state => { state with flows := state.flows.insert id () }

end Fleet.Calls
