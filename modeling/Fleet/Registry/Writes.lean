import Fleet.Registry.Reads
import Fleet.Registry.Reconciliation

/-!
# Writing

Changes to the registry. Each one is checked in the same order: what the caller left out, whether the
scope may write the cluster, and whether the cluster is stored. Changes to status bypass the index,
because searches do not look at it.
-/

namespace Fleet.Registry

open Calls

/-- Load every stored record into the directory and the index, each with its health. -/
def rebuild : Action Unit := do
  let clusters ← allClusters
  let snapshots ← allHealth
  modify fun state => { state with
    directory := clusters.foldl (fun names cluster => names.insert cluster.id cluster.name)
      state.directory }
  indexClusters (clusters.map fun cluster => { cluster with health := snapshots.get? cluster.id })
  modify fun state => { state with tally := state.tally.noteRegistered clusters.length }

/-- Register a cluster; the answer is its id. -/
def create (scope : Scope) (cluster : Cluster) : Action String := do
  ensureWrite scope cluster.id
  let enrolled ← (enrol cluster).attempt
  noteRegistered
  return (← Action.conclude enrolled).id

/-- Reconcile an announcement made just now. -/
def announce (scope : Scope) (announcement : Announcement) : Action Cluster := do
  ensureWrite scope (announcement.clusterId.getD "")
  let reconciled ← reconcile announcement (← get).now
  if reconciled.outcome = .created then noteRegistered
  return reconciled.cluster

/-- Send the dynamic configuration of a record to the agent of the cluster. -/
def push (cluster : Cluster) : Action Delivery := do
  let (delivery, roster) := (← get).roster.send cluster.id (cluster.dynamic.getD default)
  modify fun state => { state with roster }
  return delivery

/-- Replace a record and send its configuration to the agent. The name has to stay, and so do status
and audit log positions, whatever is given for them. -/
def update (scope : Scope) (given : Cluster) : Action Delivery := do
  if given.id = "" then throw (.updateWithoutId given.name)
  ensureWrite scope given.id
  let existing ← load given.id
  if existing.name ≠ given.name then throw (.renamed existing.name given.name)
  push (← store { given with status := existing.status, auditLogs := existing.auditLogs })

/-- Fail if the cluster that a report about `subject` is for is not named. -/
def requireId (id subject : String) : Action Unit := do
  if id = "" then throw (.reportWithoutId subject)

/-- Record a health report, and index the cluster again if a level that searches look at has
changed. -/
def updateHealth (scope : Scope) (id : String) (report : Health) : Action Unit := do
  requireId id "health"
  ensureWrite scope id
  let update ← recordHealth id report
  if update.livenessChanged then
    if let some cluster ← findCluster id then
      indexCluster { cluster with health := some update.snapshot }

/-- Change the stored record of a cluster and nothing else. -/
def amend (scope : Scope) (id : String) (change : Cluster → Cluster) : Action Unit := do
  requireId id "cluster"
  ensureWrite scope id
  putCluster (change (← load id))

/-- Replace the upgrade status. -/
def updateUpgradeStatus (scope : Scope) (id : String) (upgrade : UpgradeStatus) : Action Unit :=
  amend scope id (·.setUpgrade upgrade)

/-- Replace the expiry of the certificate. -/
def updateCertExpiry (scope : Scope) (id : String) (expiry : CertExpiry) : Action Unit :=
  amend scope id (·.setCertExpiry expiry)

/-- Replace the status except for the parts about upgrade and certificate. -/
def updateStatus (scope : Scope) (id : String) (status : ClusterStatus) : Action Unit :=
  amend scope id (·.setStatus status)

/-- Note which agent was the last to connect. -/
def updateSensor (scope : Scope) (id : String) (sensor : SensorIdentity) : Action Unit :=
  amend scope id (·.setSensor sensor)

/-- Enter audit log positions; nodes that are not among them keep theirs. -/
def updateAuditLogs (scope : Scope) (id : String) (positions : Table AuditPosition) :
    Action Unit := do
  requireId id "audit log file states"
  if positions.isEmpty then throw (.noAuditPositions id)
  amend scope id (·.enterAuditLogs positions)

end Fleet.Registry
