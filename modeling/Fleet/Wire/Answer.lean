import Fleet.Failure
import Fleet.Query
import Fleet.Takeover
import Fleet.Telemetry
import Fleet.Wire.Cluster

/-!
# Criteria, failures and settings as JSON

The written form of what callers ask and of what they are told.
-/

namespace Fleet

open Wire

namespace Failure

/-- The name of the kind of a failure. -/
def kind : Failure → String
  | invalid .. => "Validation"
  | denied _ => "AccessDenied"
  | notFound _ => "NotFound"
  | conflict .. => "Conflict"
  | dependency .. => "Dependency"

def toJson (failure : Failure) : Json := .obj [
  ("error", .str failure.kind),
  ("message", .str failure.message),
  ("cluster", .ofText? failure.cluster?),
  ("context", .ofText? failure.context?),
  ("field", .ofText? failure.field?),
  ("retryable", .bool failure.isRetryable)]

/-- A failure of the given kind, from its name and up to three texts. -/
def ofKind? (kind a b c : String) : Option Failure :=
  match kind with
  | "validation" => some (unplaced a)
  | "validation_for_field" => some (atField a b c)
  | "access_denied" => some (denied a)
  | "not_found" => some (notFound a)
  | "conflict" => some (conflict a b)
  | "dependency" => some (dependency a b)
  | _ => none

end Failure

namespace Query

/-- Read criteria; those that are missing or null are none. -/
def read? (value : Json) : Option Query := do
  let fields ← fields? .lenient [] value
  return {
    ids := ((← fields.optional "cluster_ids" none (list? text?)).getD [])
    name := ← fields.optional "name" none text?
    labels := ((← fields.optional "labels" none (table? text?)).getD .empty)
    sensor := ← fields.optional "sensor_health" none HealthLevel.read? }

end Query

def Hit.toJson (hit : Hit) : Json := .obj [("id", .str hit.id), ("name", .str hit.name)]

def Settings.toJson (settings : Settings) : Json := .obj [
  ("cluster_move_grace_secs", .ofNat settings.moveGrace.wholeSeconds),
  ("connection_termination_timeout_secs", .ofNat settings.terminationTimeout.wholeSeconds),
  ("default_admission_timeout_secs", ofInt32 settings.admissionTimeout),
  ("cascade_queue_capacity", .ofNat settings.queueCapacity)]

def AttributeValue.toJson : AttributeValue → Json
  | text value => .str value
  | number value => .ofNat value

def Telemetry.toJson (telemetry : Telemetry) : Json := .obj [
  ("service_name", .str telemetry.serviceName),
  ("otlp_endpoint", .ofText? telemetry.endpoint),
  ("instance_id", .ofText? telemetry.instanceId),
  ("log_level", .str telemetry.logLevel),
  ("registry", .ofOption Settings.toJson telemetry.registry),
  ("directives", .str telemetry.directives),
  ("resource", .obj (telemetry.attributes.map fun pair => (pair.1, pair.2.toJson)))]

end Fleet
