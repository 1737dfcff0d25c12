import Fleet.Health
import Fleet.Table

/-!
# Stored snapshots

The last snapshot of each cluster, and how reports are recorded in them.
-/

namespace Fleet

/-- The last snapshot of each cluster, by id. -/
abbrev Snapshots := Table Health

/-- What recording a report came to. -/
structure HealthUpdate where
  snapshot : Health
  /-- Whether a level that searches look at is another than before. -/
  livenessChanged : Bool
deriving DecidableEq

namespace Snapshots

/-- What a report makes of the snapshot of a cluster. -/
def updated (snapshots : Snapshots) (clusterId : String) (report : Health) : HealthUpdate :=
  let previous := (snapshots.get? clusterId).getD default
  let snapshot := previous.merge report
  ⟨snapshot, previous.livenessDiffers snapshot⟩

/-- Record a report. -/
def record (snapshots : Snapshots) (clusterId : String) (report : Health) : Snapshots :=
  snapshots.insert clusterId (snapshots.updated clusterId report).snapshot

/-- When the agent of a cluster was in contact last. -/
def lastContact (snapshots : Snapshots) (clusterId : String) : Option Instant :=
  (snapshots.get? clusterId).bind (·.lastContact)

/-- Look up many ids at once: the snapshots found, in order, and the positions of the ids without one,
ascending. `position` is that of the first id. -/
def findMany (snapshots : Snapshots) (position : Nat) : List String → List Health × List Nat
  | [] => ([], [])
  | id :: rest =>
    let (found, missing) := snapshots.findMany (position + 1) rest
    match snapshots.get? id with
    | some snapshot => (snapshot :: found, missing)
    | none => (found, position :: missing)

end Snapshots

end Fleet
