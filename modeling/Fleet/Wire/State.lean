import Fleet.State
import Fleet.Teardown.Report
import Fleet.Wire.Cluster

/-!
# The state as JSON

The written form of reports and counts, and of all that the state holds.
-/

namespace Fleet

open Wire

def Alert.toJson (alert : Alert) : Json := .obj [
  ("id", .str alert.id),
  ("deployment_id", .str alert.deploymentId),
  ("cluster_id", .str alert.clusterId),
  ("policy_name", .str alert.policyName),
  ("state", .str alert.state.label)]

def StepFailure.toJson (failure : StepFailure) : Json := .obj [
  ("subsystem", .str failure.subsystem.label),
  ("resource_id", .ofText? failure.resourceId),
  ("message", .str failure.message)]

namespace Report

/-- How many removals and how many failures a subsystem had. -/
def totals (report : Report) (subsystem : Subsystem) : Json :=
  .arr [.ofNat (report.removedFrom subsystem), .ofNat (report.failuresIn subsystem).length]

def toJson (report : Report) : Json := .obj [
  ("cluster_id", .str report.clusterId),
  ("cluster_name", .str report.clusterName),
  ("connection", .str report.connection.label),
  ("clean", .bool report.isClean),
  ("totals", .obj (Subsystem.all.map fun subsystem => (subsystem.label, report.totals subsystem))),
  ("failures", .ofList StepFailure.toJson report.failures)]

end Report

namespace Tally

/-- How often each of some things was counted, leaving out those that never were. -/
def counts {α : Type} [BEq α] (all : List α) (label : α → String) (counted : List α) : Json :=
  .obj <| (all.filter counted.contains).map fun a => (label a, .ofNat (counted.count a))

def toJson (tally : Tally) : Json := .obj [
  ("clusters_registered", .ofOption .ofNat tally.registered),
  ("outcomes", counts Outcome.all Outcome.label tally.outcomes),
  ("cascades", .ofNat tally.cascades),
  ("cascade_failures", counts Subsystem.all Subsystem.label tally.cascadeFailures)]

end Tally

namespace Holdings

/-- How many resources of a kind each cluster has, leaving out those without any. -/
def resourceCounts (holdings : Holdings) (kind : ResourceKind) : List (String × Json) :=
  ((holdings.resources kind).filter fun _ held => !held.isEmpty).entries.map fun entry =>
    (entry.1, .ofNat entry.2.length)

/-- The counts of every kind that somebody has. -/
def resourcesJson (holdings : Holdings) : Json :=
  .obj <| ResourceKind.all.filterMap fun kind =>
    match holdings.resourceCounts kind with
    | [] => none
    | counts => some (kind.label, .obj counts)

end Holdings

namespace State

/-- All that the state holds; of the directory only the given names are shown. -/
def toJson (state : State) (names : Table String) : Json := .obj [
  ("clusters", .ofList Cluster.view (state.clusters.values.mergeSort Cluster.before)),
  ("count", .ofNat state.clusters.size),
  ("index", .ofList Cluster.view (state.index.values.mergeSort Cluster.before)),
  ("health", ofTable Health.toJson state.holdings.health),
  ("names", ofTable .str names),
  ("ranks", ofTable .int state.holdings.ranks),
  ("flows", ofTable (fun _ => .bool true) state.flows),
  ("resources", state.holdings.resourcesJson),
  ("alerts", ofTable (.str ·.state.label) state.holdings.alerts),
  ("agents", .ofNat state.roster.size),
  ("notified", .ofList Alert.toJson state.holdings.notified),
  ("pending", .ofNat state.queue.pending)]

end State

end Fleet
