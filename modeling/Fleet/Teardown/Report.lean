import Fleet.Cluster
import Fleet.Subsystem

/-!
# Teardown reports

What a teardown removed and where it failed. A failure never stops a teardown; it goes into the
report.
-/

namespace Fleet

/-- How the connection of the agent ended. -/
inductive ConnectionEnd where
  /-- There was no live connection. -/
  | notConnected
  /-- The connection ended in time. -/
  | stopped
  /-- The connection did not end in time. -/
  | timedOut
deriving DecidableEq, Repr

/-- The label of how a connection ended. -/
def ConnectionEnd.label : ConnectionEnd → String
  | notConnected => "not_connected"
  | stopped => "stopped"
  | timedOut => "timed_out"

/-- A step of a teardown that failed. -/
structure StepFailure where
  subsystem : Subsystem
  /-- What the step was about; none if it was to find out what there is. -/
  resourceId : Option String
  message : String
deriving DecidableEq

/-- The outcome of a teardown. -/
structure Report where
  clusterId : String
  clusterName : String
  connection : ConnectionEnd
  /-- One entry for each thing removed, oldest first. -/
  removals : List Subsystem := []
  failures : List StepFailure := []
deriving DecidableEq

namespace Report

/-- Whether every step succeeded. -/
def isClean (report : Report) : Bool :=
  report.failures.isEmpty

/-- How many things were removed from a subsystem. -/
def removedFrom (report : Report) (subsystem : Subsystem) : Nat :=
  report.removals.count subsystem

/-- The failures in a subsystem. -/
def failuresIn (report : Report) (subsystem : Subsystem) : List StepFailure :=
  report.failures.filter (·.subsystem = subsystem)

end Report

end Fleet
