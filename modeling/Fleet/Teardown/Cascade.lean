import Fleet.Holdings
import Fleet.Teardown.Report

/-!
# The cascade

What a teardown does once the connection of the agent has ended: it drops the rank and the snapshot
of the cluster, then visits the subsystems one after another and removes what they hold for it, one
thing at a time. Before a deployment goes, its active alerts are resolved and handed on.

A cascade is all of one step here. On a single thread, and with collaborators that never make anybody
wait, nothing else goes on between its first call and its last. `Fleet.Proofs.Interleaving` shows what
becomes of cascades whose calls alternate.
-/

namespace Fleet

/-- A cascade on its way: what is left, and the report so far. -/
structure Cascade where
  holdings : Holdings
  report : Report

namespace Cascade

/-- Note a step that failed. -/
def fail (cascade : Cascade) (subsystem : Subsystem) (resourceId : Option String)
    (failure : Failure) : Cascade :=
  { cascade with report :=
      { cascade.report with failures := cascade.report.failures ++
          [⟨subsystem, resourceId, failure.message⟩] } }

/-- Note a removal and what is left after it. -/
def removed (cascade : Cascade) (subsystem : Subsystem) (left : Holdings) : Cascade :=
  { cascade with
    holdings := left
    report := { cascade.report with removals := cascade.report.removals ++ [subsystem] } }

/-- Remove one resource. -/
def removeResource (conditions : Conditions) (kind : ResourceKind) (cascade : Cascade)
    (resource : Resource) : Cascade :=
  match cascade.holdings.remove conditions kind cascade.report.clusterId resource.id with
  | .ok left => cascade.removed (.resources kind) left
  | .error failure => cascade.fail (.resources kind) (some resource.id) failure

/-- Resolve one alert and hand it on. -/
def resolveAlert (conditions : Conditions) (cascade : Cascade) (alert : Alert) : Cascade :=
  match cascade.holdings.resolveAlert conditions alert.id with
  | .ok left => cascade.removed .alerts (left.notify { alert with state := .resolved })
  | .error failure => cascade.fail .alerts (some alert.id) failure

/-- Resolve the active alerts of a deployment. -/
def resolveAlerts (conditions : Conditions) (cascade : Cascade) (deployment : Resource) : Cascade :=
  match cascade.holdings.activeAlerts conditions deployment.id with
  | .ok alerts => alerts.foldl (resolveAlert conditions) cascade
  | .error failure => cascade.fail .alerts (some deployment.id) failure

/-- Remove a deployment after its alerts. -/
def removeDeployment (conditions : Conditions) (cascade : Cascade) (deployment : Resource) :
    Cascade :=
  (cascade.resolveAlerts conditions deployment).removeResource conditions .deployments deployment

/-- Remove what a cluster has of one kind. -/
def removeKind (conditions : Conditions) (cascade : Cascade) (kind : ResourceKind) : Cascade :=
  match cascade.holdings.search conditions kind cascade.report.clusterId with
  | .error failure => cascade.fail (.resources kind) none failure
  | .ok found =>
    let remove := match kind with
      | .deployments => removeDeployment conditions
      | kind => removeResource conditions kind
    found.foldl remove cascade

/-- Drop the snapshot of the cluster. -/
def forgetHealth (conditions : Conditions) (cascade : Cascade) : Cascade :=
  match cascade.holdings.forgetHealth conditions cascade.report.clusterId with
  | .ok left => { cascade with holdings := left }
  | .error failure => cascade.fail .health none failure

/-- Take down everything that is held for a cluster. -/
def run (conditions : Conditions) (cluster : Cluster) (connection : ConnectionEnd)
    (holdings : Holdings) : Cascade :=
  let start : Cascade :=
    ⟨holdings.forgetRank cluster.id, { clusterId := cluster.id, clusterName := cluster.name, connection }⟩
  ResourceKind.all.foldl (removeKind conditions) (start.forgetHealth conditions)

end Cascade

end Fleet
