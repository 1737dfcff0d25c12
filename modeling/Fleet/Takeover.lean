import Fleet.Cluster.Status
import Fleet.Failure
import Fleet.Text.Decimal

/-!
# Takeover of a cluster by another agent

While the last agent of a cluster was seen recently, another one may take the cluster over only from
the same physical cluster. Its namespaces tell: their ids outlive a new deployment of the agent, but
differ from one physical cluster to the next.
-/

namespace Fleet

open Fleet.Text

/-- Why an agent is not taken for the successor of the last one. -/
inductive Discontinuity where
  /-- A field that tells physical clusters apart has changed. -/
  | changed (field previous incoming : String)
  /-- The agent did not say who it is. -/
  | unidentified
deriving DecidableEq, Repr

/-- The text shown to the agent. -/
def Discontinuity.message : Discontinuity → String
  | changed field previous incoming =>
    field ++ " changed from " ++ quoted previous ++ " to " ++ quoted incoming
  | unidentified => "no sensor identification presented"

namespace SensorIdentity

/-- The fields that tell physical clusters apart, by their written names. -/
def telling : List (String × (SensorIdentity → String)) := [
  ("system_namespace_id", systemNamespaceId),
  ("default_namespace_id", defaultNamespaceId),
  ("app_namespace", appNamespace)]

/-- The first telling field in which an agent differs from the one before it. -/
def discontinuity? (incoming stored : SensorIdentity) : Option Discontinuity :=
  (telling.find? fun field => field.2 stored ≠ field.2 incoming).map fun field =>
    .changed field.1 (field.2 stored) (field.2 incoming)

/-- Whether two agents run in the same physical cluster. -/
def sameCluster (a b : SensorIdentity) : Prop :=
  a.systemNamespaceId = b.systemNamespaceId ∧ a.defaultNamespaceId = b.defaultNamespaceId ∧
    a.appNamespace = b.appNamespace

end SensorIdentity

/-- How much of the grace period is left since the last contact, if any. A contact in the future
counts as one just now. -/
def graceLeft? (grace : Duration) (lastContact now : Instant) : Option Duration :=
  let elapsed := now.elapsed lastContact
  if elapsed.nanos < grace.nanos then some ⟨grace.nanos - elapsed.nanos⟩ else none

/-- Why the agent `incoming` may not take over the cluster `name` from the agent `stored`, which was
in contact last at `lastContact`; nothing if it may. -/
def takeoverRefusal? (grace : Duration) (name : String) (stored incoming : Option SensorIdentity)
    (lastContact : Option Instant) (now : Instant) : Option Failure := do
  let contact ← lastContact
  let stored ← stored
  let left ← graceLeft? grace contact now
  let reason ← match incoming with
    | some incoming => incoming.discontinuity? stored
    | none => some .unidentified
  return .takeoverRefused name reason.message (writeNat left.ceilSeconds)

end Fleet
