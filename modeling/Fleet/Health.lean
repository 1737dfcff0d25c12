import Fleet.Instant

/-!
# Health snapshots

What is known about the liveness of a cluster. A report need not fill every field, and a snapshot
keeps the last value that was reported for each.
-/

namespace Fleet

/-- The health of one component. -/
inductive HealthLevel where
  | uninitialized
  | unavailable
  | unhealthy
  | degraded
  | healthy
deriving DecidableEq, Repr, Inhabited

/-- How far the collectors are rolled out. -/
structure CollectorRollout where
  desiredPods : Int32 := 0
  readyPods : Int32 := 0
  errors : List String := []
deriving DecidableEq

instance : Inhabited CollectorRollout := ⟨⟨0, 0, []⟩⟩

/-- A snapshot, or a report in which a missing field says nothing. -/
structure Health where
  sensor : Option HealthLevel := none
  collector : Option HealthLevel := none
  admission : Option HealthLevel := none
  rollout : Option CollectorRollout := none
  lastContact : Option Instant := none
deriving DecidableEq, Inhabited

namespace Health

/-- The snapshot after a report: each field as reported, or as it was. -/
def merge (snapshot report : Health) : Health where
  sensor := report.sensor <|> snapshot.sensor
  collector := report.collector <|> snapshot.collector
  admission := report.admission <|> snapshot.admission
  rollout := report.rollout <|> snapshot.rollout
  lastContact := report.lastContact <|> snapshot.lastContact

/-- Whether two snapshots differ in the levels that searches look at. -/
def livenessDiffers (before after : Health) : Bool :=
  before.sensor ≠ after.sensor || before.collector ≠ after.collector

end Health

end Fleet
