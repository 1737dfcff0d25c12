import Fleet.Calls
import Fleet.Cluster.Normal

/-!
# Records

The one way in which records are written and dropped. A record is stored first, then its name goes
into the directory, then it is indexed; so a name is taken as soon as its record is stored, whatever
becomes of the index.
-/

namespace Fleet.Registry

open Calls

/-- The stored record of a cluster; it has to exist. -/
def load (id : String) : Action Cluster := do
  match ← findCluster id with
  | some cluster => return cluster
  | none => throw (.notFound id)

/-- A record in the form to store. -/
def prepare (cluster : Cluster) : Action Cluster := do
  Action.conclude (cluster.prepare (← get).settings.admissionTimeout)

/-- Enter the name of a stored record into the directory and index the record. -/
def publish (cluster : Cluster) : Action Unit := do
  modify fun state => { state with directory := state.directory.insert cluster.id cluster.name }
  indexCluster cluster

/-- Write a record: bring it into normal form, store it and publish it. The answer is the record as
it was written. -/
def store (cluster : Cluster) : Action Cluster := do
  let normal ← prepare cluster
  putCluster normal
  publish normal
  return normal

/-- Drop a record and its name. The index is left as it is. -/
def dropRecord (id : String) : Action Unit := do
  dropCluster id
  modify fun state => { state with directory := state.directory.erase id }

/-- Note how many clusters the directory knows. -/
def noteRegistered : Action Unit :=
  modify fun state => { state with tally := state.tally.noteRegistered state.directory.size }

end Fleet.Registry
