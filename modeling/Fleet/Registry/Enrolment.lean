import Fleet.Registry.Records

/-!
# Enrolment

How a record of a new cluster gets its id and is written. An id counts as given out once a record is
stored under it, and none is given out twice. The flow store comes last: without it the call fails, but
the record stays.
-/

namespace Fleet.Registry

open Calls

/-- What speaks against enrolling a record, if anything does: it has an id already, it has no name, or
its name is taken. -/
def enrolmentObjection? (directory : Directory) (cluster : Cluster) : Option Failure :=
  if cluster.id ≠ "" then some (.idPreset cluster.id)
  else if cluster.name = "" then some (.blankName "")
  else (directory.idOf? cluster.name).map (.nameTaken cluster.name)

/-- Write the record of a new cluster under a new id. The answer is the record as it was written. -/
def enrol (cluster : Cluster) : Action Cluster := do
  if let some failure := enrolmentObjection? (← get).directory cluster then throw failure
  let normal ← prepare { cluster with id := (← get).nextId }
  putCluster normal
  modify fun state => { state with issued := state.issued + 1 }
  publish normal
  match ← (createFlows normal.id).attempt with
  | .ok () => return normal
  | .error cause => throw (.flowStoreMissing normal.id cause)

end Fleet.Registry
