import Fleet.Announcement
import Fleet.Registry.Enrolment
import Fleet.Takeover

/-!
# Reconciliation

What an announcement comes to. It is about the cluster whose id it carries, or else about the one that
goes by the announced name; a name that nobody goes by makes a new cluster. A known cluster is adopted:
the agent has to be fit to take it over, and the record takes the declared configuration unless it has
it already.
-/

namespace Fleet.Registry

open Calls

/-- A reconciled cluster and what happened to it. -/
structure Reconciled where
  cluster : Cluster
  outcome : Outcome
deriving DecidableEq

/-- The cluster an announcement is about, if there is one. -/
def target? (directory : Directory) (announcement : Announcement) : Option String :=
  announcement.clusterId.filter (· ≠ "") <|>
    (if announcement.name = "" then none else directory.idOf? announcement.name)

/-- Make a record for a cluster that is announced for the first time. -/
def introduce (announcement : Announcement) : Action Reconciled := do
  return ⟨← enrol announcement.newCluster, .created⟩

/-- Fail if the agent may not take the cluster over at `now`. -/
def guardTakeover (cluster : Cluster) (incoming : Option SensorIdentity) (now : Instant) :
    Action Unit := do
  let contact ← lastContact cluster.id
  let grace := (← get).settings.moveGrace
  match takeoverRefusal? grace cluster.name cluster.sensor incoming contact now with
  | some failure => throw failure
  | none => return

/-- Bring the declared part of a record in line with an announcement. -/
def converge (cluster : Cluster) (managed : Option ManagedConfig) : Action Reconciled := do
  match managed with
  | none =>
    if cluster.isManaged then
      return ⟨← store { cluster with managed := none }, .cleared⟩
    else
      return ⟨cluster, .adopted⟩
  | some config =>
    if cluster.fingerprint? = some config.fingerprint then
      return ⟨cluster, .unchanged⟩
    else
      return ⟨← store { cluster.configure config with managed := some config }, .updated⟩

/-- Adopt a known cluster. -/
def adopt (id : String) (announcement : Announcement) (now : Instant) : Action Reconciled := do
  let cluster ← load id
  if announcement.name ≠ "" ∧ announcement.name ≠ cluster.name then
    throw (.nameMismatch id cluster.name announcement.name)
  guardTakeover cluster announcement.sensor now
  converge cluster announcement.managed

/-- Decide on an announcement and act on it. -/
def decide (announcement : Announcement) (now : Instant) : Action Reconciled := do
  match target? (← get).directory announcement with
  | some id => adopt id announcement now
  | none =>
    if announcement.name = "" then throw .anonymous
    else introduce announcement

/-- Count what an announcement came to. -/
def countOutcome (outcome : Outcome) : Action Unit :=
  modify fun state => { state with tally := state.tally.countOutcome outcome }

/-- Reconcile an announcement made at `now`, and count what it came to. -/
def reconcile (announcement : Announcement) (now : Instant) : Action Reconciled := do
  match ← (decide announcement now).attempt with
  | .ok reconciled =>
    countOutcome reconciled.outcome
    return reconciled
  | .error failure =>
    countOutcome .rejected
    throw failure

end Fleet.Registry
