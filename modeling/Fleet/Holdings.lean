import Fleet.Conditions
import Fleet.Health.Snapshots
import Fleet.Table

/-!
# Holdings

What is kept on behalf of clusters beside their records: health snapshots, ranks, the resources of
the subsystems, alerts, and the alerts that were handed on for notification.
-/

namespace Fleet

/-- A resource of a subsystem. -/
structure Resource where
  id : String
  name : String
deriving DecidableEq, Repr

/-- The state of a policy violation. -/
inductive AlertState where
  | active
  | snoozed
  | resolved
  | attempted
deriving DecidableEq, Repr, Inhabited

namespace AlertState

/-- Every state. -/
def all : List AlertState := [.active, .snoozed, .resolved, .attempted]

/-- The label of a state. -/
def label : AlertState → String
  | active => "active"
  | snoozed => "snoozed"
  | resolved => "resolved"
  | attempted => "attempted"

end AlertState

/-- A policy violation of a deployment. -/
structure Alert where
  id : String
  deploymentId : String
  clusterId : String
  policyName : String
  state : AlertState
deriving DecidableEq, Repr

/-- For each kind, the resources of each cluster in the order they were added. -/
structure ResourceTables where
  namespaces : Table (List Resource) := .empty
  deployments : Table (List Resource) := .empty
  pods : Table (List Resource) := .empty
  nodes : Table (List Resource) := .empty
  networkEntities : Table (List Resource) := .empty
  networkBaselines : Table (List Resource) := .empty
  secrets : Table (List Resource) := .empty
deriving DecidableEq, Inhabited

namespace ResourceTables

/-- The resources of one kind. -/
def get (tables : ResourceTables) : ResourceKind → Table (List Resource)
  | .namespaces => tables.namespaces
  | .deployments => tables.deployments
  | .pods => tables.pods
  | .nodes => tables.nodes
  | .networkEntities => tables.networkEntities
  | .networkBaselines => tables.networkBaselines
  | .secrets => tables.secrets

/-- Let the resources of one kind be these. -/
def set (tables : ResourceTables) (kind : ResourceKind) (table : Table (List Resource)) :
    ResourceTables :=
  match kind with
  | .namespaces => { tables with namespaces := table }
  | .deployments => { tables with deployments := table }
  | .pods => { tables with pods := table }
  | .nodes => { tables with nodes := table }
  | .networkEntities => { tables with networkEntities := table }
  | .networkBaselines => { tables with networkBaselines := table }
  | .secrets => { tables with secrets := table }

/-- Setting one kind changes that kind and no other. -/
@[simp]
theorem get_set (tables : ResourceTables) (kind other : ResourceKind)
    (table : Table (List Resource)) :
    (tables.set kind table).get other = if other = kind then table else tables.get other := by
  cases kind <;> cases other <;> rfl

end ResourceTables

/-- What is kept on behalf of clusters. -/
structure Holdings where
  health : Snapshots := .empty
  ranks : Table Int := .empty
  tables : ResourceTables := {}
  alerts : Table Alert := .empty
  /-- Alerts handed on for notification, oldest first. -/
  notified : List Alert := []
deriving DecidableEq

namespace Holdings

instance : Inhabited Holdings := ⟨{}⟩

/-! ## Ranks -/

/-- The rank of a cluster; zero if it was not given one. -/
def rankOf (holdings : Holdings) (clusterId : String) : Int :=
  (holdings.ranks.get? clusterId).getD 0

/-! ## Resources -/

/-- The resources of a kind, by cluster. -/
def resources (holdings : Holdings) (kind : ResourceKind) : Table (List Resource) :=
  holdings.tables.get kind

/-- The resources that a cluster has of a kind. -/
def resourcesOf (holdings : Holdings) (kind : ResourceKind) (clusterId : String) : List Resource :=
  ((holdings.resources kind).get? clusterId).getD []

/-- Change what is kept of one kind. -/
def changeKind (holdings : Holdings) (kind : ResourceKind)
    (f : Table (List Resource) → Table (List Resource)) : Holdings :=
  { holdings with tables := holdings.tables.set kind (f (holdings.resources kind)) }

/-- Changing one kind leaves the others as they were. -/
@[simp]
theorem resources_changeKind (holdings : Holdings) (kind other : ResourceKind)
    (f : Table (List Resource) → Table (List Resource)) :
    (holdings.changeKind kind f).resources other =
      if other = kind then f (holdings.resources kind) else holdings.resources other := by
  simp [changeKind, resources]

/-- Add a resource of a cluster. -/
def addResource (holdings : Holdings) (kind : ResourceKind) (clusterId : String)
    (resource : Resource) : Holdings :=
  holdings.changeKind kind
    (·.insert clusterId (holdings.resourcesOf kind clusterId ++ [resource]))

/-- Find the resources of a cluster. -/
def search (holdings : Holdings) (conditions : Conditions) (kind : ResourceKind)
    (clusterId : String) : Except Failure (List Resource) := do
  conditions.check (.resourceSearch kind) clusterId
  conditions.checkPart (.resources kind)
  return holdings.resourcesOf kind clusterId

/-- Remove the resources of a cluster that have an id. -/
def remove (holdings : Holdings) (conditions : Conditions) (kind : ResourceKind)
    (clusterId resourceId : String) : Except Failure Holdings := do
  conditions.check (.resourceRemove kind) resourceId
  conditions.checkPart (.resources kind)
  match (holdings.resources kind).get? clusterId with
  | none => return holdings
  | some held =>
    return holdings.changeKind kind (·.insert clusterId (held.filter (·.id ≠ resourceId)))

/-! ## Alerts -/

/-- Keep an alert, in place of the one that had its id. -/
def addAlert (holdings : Holdings) (alert : Alert) : Holdings :=
  { holdings with alerts := holdings.alerts.insert alert.id alert }

/-- The active alerts of a deployment, by id. -/
def activeAlerts (holdings : Holdings) (conditions : Conditions) (deploymentId : String) :
    Except Failure (List Alert) := do
  conditions.check .alertSearch deploymentId
  conditions.checkPart .alerts
  return holdings.alerts.values.filter fun alert =>
    alert.deploymentId = deploymentId && alert.state = .active

/-- Resolve an alert whose subject is gone. -/
def resolveAlert (holdings : Holdings) (conditions : Conditions) (alertId : String) :
    Except Failure Holdings := do
  conditions.check .alertMarkStale alertId
  conditions.checkPart .alerts
  match holdings.alerts.get? alertId with
  | none => throw (.dependency "alerts" ("alert " ++ alertId ++ " not found"))
  | some alert => return holdings.addAlert { alert with state := .resolved }

/-- Hand an alert on for notification. -/
def notify (holdings : Holdings) (alert : Alert) : Holdings :=
  { holdings with notified := holdings.notified ++ [alert] }

/-! ## Health -/

/-- Record a health report. -/
def recordHealth (holdings : Holdings) (clusterId : String) (report : Health) : Holdings :=
  { holdings with health := Snapshots.record holdings.health clusterId report }

/-- Drop the snapshot of a cluster. -/
def forgetHealth (holdings : Holdings) (conditions : Conditions) (clusterId : String) :
    Except Failure Holdings := do
  conditions.check .healthDelete clusterId
  return { holdings with health := holdings.health.erase clusterId }

/-- Drop the rank of a cluster. -/
def forgetRank (holdings : Holdings) (clusterId : String) : Holdings :=
  { holdings with ranks := holdings.ranks.erase clusterId }

end Holdings

end Fleet
