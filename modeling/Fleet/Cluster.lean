import Fleet.Cluster.Config
import Fleet.Cluster.Status
import Fleet.Health

/-!
# Cluster records

The record of a monitored cluster. Health and priority are looked up when a record is read; they are
no part of what is stored.
-/

namespace Fleet

/-- A registered cluster. -/
structure Cluster where
  /-- Given by the registry; empty before that. -/
  id : String := ""
  name : String := ""
  kind : ClusterKind := .generic
  labels : Table String := .empty
  mainImage : String := ""
  collectorImage : String := ""
  endpoint : String := ""
  /-- Whether runtime data is collected at all. -/
  runtimeSupport : Bool := false
  collectionMethod : CollectionMethod := .unspecified
  admissionController : Bool := false
  admissionUpdates : Bool := false
  admissionEvents : Bool := false
  tolerations : Option Tolerations := none
  slimCollector : Bool := false
  dynamic : Option DynamicConfig := none
  /-- The declared configuration, for as long as the cluster is managed by one. -/
  managed : Option ManagedConfig := none
  /-- The agent that was last seen to connect. -/
  sensor : Option SensorIdentity := none
  status : Option ClusterStatus := none
  auditLogs : Table AuditPosition := .empty
  health : Option Health := none
  priority : Int := 0
deriving DecidableEq, Inhabited

namespace Cluster

/-- Whether a declared configuration manages the cluster. -/
def isManaged (cluster : Cluster) : Bool :=
  cluster.managed.isSome

/-- The fingerprint of the configuration that manages the cluster. -/
def fingerprint? (cluster : Cluster) : Option String :=
  cluster.managed.map (·.fingerprint)

/-- The record as it is stored, without what is looked up on reading. -/
def stored (cluster : Cluster) : Cluster :=
  { cluster with health := none, priority := 0 }

/-- Take the configuration of a declaration. Identity, status and audit log positions stay. -/
def configure (cluster : Cluster) (config : ManagedConfig) : Cluster :=
  { cluster with
    dynamic := config.dynamic
    labels := config.labels
    kind := config.static.kind
    mainImage := config.static.mainImage
    endpoint := config.static.endpoint
    collectionMethod := config.static.collectionMethod
    collectorImage := config.static.collectorImage
    admissionController := config.static.admissionController
    admissionUpdates := config.static.admissionUpdates
    admissionEvents := config.static.admissionEvents
    tolerations := config.static.tolerations
    slimCollector := config.static.slimCollector }

/-- Replace the upgrade status. -/
def setUpgrade (cluster : Cluster) (upgrade : UpgradeStatus) : Cluster :=
  let status := cluster.status.getD default
  { cluster with status := some { status with upgrade := some upgrade } }

/-- Replace the expiry of the certificate. -/
def setCertExpiry (cluster : Cluster) (expiry : CertExpiry) : Cluster :=
  let status := cluster.status.getD default
  { cluster with status := some { status with certExpiry := some expiry } }

/-- Replace the status except for the parts about upgrade and certificate. -/
def setStatus (cluster : Cluster) (status : ClusterStatus) : Cluster :=
  let upgrade := cluster.status.bind (·.upgrade)
  let certExpiry := cluster.status.bind (·.certExpiry)
  { cluster with status := some { status with upgrade, certExpiry } }

/-- Note which agent was the last to connect. -/
def setSensor (cluster : Cluster) (sensor : SensorIdentity) : Cluster :=
  { cluster with sensor := some sensor }

/-- Enter audit log positions; nodes that are not among them keep theirs. -/
def enterAuditLogs (cluster : Cluster) (positions : Table AuditPosition) : Cluster :=
  { cluster with auditLogs := cluster.auditLogs.insertMany positions.entries }

/-- Give each cluster its snapshot from a batched answer: the snapshots found, in order, and the
positions without one, ascending. `position` is that of the first cluster. -/
def attachHealth (found : List Health) (missing : List Nat) (position : Nat) :
    List Cluster → List Cluster
  | [] => []
  | cluster :: rest =>
    if missing.head? = some position then
      { cluster with health := none } :: attachHealth found missing.tail (position + 1) rest
    else
      { cluster with health := found.head? } :: attachHealth found.tail missing (position + 1) rest

/-- Attach the answer to a batched lookup of the snapshots of clusters; a lookup that failed changes none
of them. -/
def populate {ε : Type} (answer : Except ε (List Health × List Nat)) (clusters : List Cluster) :
    List Cluster :=
  match answer with
  | .ok (found, missing) => attachHealth found missing 0 clusters
  | .error _ => clusters

/-- Names first, ids among equal names, both by code point. Records are listed by name only, and the order
of namesakes is left open; their ids settle it here, so that a list of records is one list. -/
def before (a b : Cluster) : Bool :=
  a.name < b.name || (a.name = b.name && a.id ≤ b.id)

/-- The same clusters, but neighbours of one name in the order of their ids. Where namesakes stand next to
each other, the order that they come in is left open, and this is one of those that they may come in. -/
def orderNamesakes (clusters : List Cluster) : List Cluster :=
  (clusters.splitBy fun a b => a.name = b.name).flatMap fun namesakes => namesakes.mergeSort before

end Cluster

end Fleet
