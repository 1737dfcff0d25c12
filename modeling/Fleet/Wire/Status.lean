import Fleet.Cluster.Status
import Fleet.Health
import Fleet.Wire.Fields

/-!
# Reports as JSON

The written form of what agents report, and its readers.
-/

namespace Fleet

open Wire

namespace SensorIdentity

/-- The names of the fields, in order. -/
def fieldNames : List String :=
  ["system_namespace_id", "default_namespace_id", "app_namespace", "app_namespace_id",
    "app_serviceaccount_id", "k8s_node_name"]

def toJson (sensor : SensorIdentity) : Json := .obj [
  ("system_namespace_id", .str sensor.systemNamespaceId),
  ("default_namespace_id", .str sensor.defaultNamespaceId),
  ("app_namespace", .str sensor.appNamespace),
  ("app_namespace_id", .str sensor.appNamespaceId),
  ("app_serviceaccount_id", .str sensor.appServiceAccountId),
  ("k8s_node_name", .str sensor.nodeName)]

def read? (reading : Reading) (base : SensorIdentity) (value : Json) : Option SensorIdentity := do
  let fields ← fields? reading fieldNames value
  return {
    systemNamespaceId := ← fields.required "system_namespace_id" base.systemNamespaceId text?
    defaultNamespaceId := ← fields.required "default_namespace_id" base.defaultNamespaceId text?
    appNamespace := ← fields.required "app_namespace" base.appNamespace text?
    appNamespaceId := ← fields.required "app_namespace_id" base.appNamespaceId text?
    appServiceAccountId := ← fields.required "app_serviceaccount_id" base.appServiceAccountId text?
    nodeName := ← fields.required "k8s_node_name" base.nodeName text? }

end SensorIdentity

namespace Upgradability

/-- Every verdict. -/
def all : List Upgradability :=
  [.undetermined, .upToDate, .manualUpgradeRequired, .autoUpgradePossible, .sensorVersionHigher]

/-- The written form. -/
def label : Upgradability → String
  | undetermined => "UNSET"
  | upToDate => "UP_TO_DATE"
  | manualUpgradeRequired => "MANUAL_UPGRADE_REQUIRED"
  | autoUpgradePossible => "AUTO_UPGRADE_POSSIBLE"
  | sensorVersionHigher => "SENSOR_VERSION_HIGHER"

def toJson (verdict : Upgradability) : Json := .str verdict.label

def read? : Json → Option Upgradability := labelled? all label

end Upgradability

namespace UpgradeStatus

/-- The names of the fields, in order. -/
def fieldNames : List String :=
  ["upgradability", "upgradability_status_reason", "most_recent_process_id"]

def toJson (status : UpgradeStatus) : Json := .obj [
  ("upgradability", status.upgradability.toJson),
  ("upgradability_status_reason", .str status.reason),
  ("most_recent_process_id", .ofText? status.processId)]

def read? (reading : Reading) (base : UpgradeStatus) (value : Json) : Option UpgradeStatus := do
  let fields ← fields? reading fieldNames value
  return {
    upgradability := ← fields.required "upgradability" base.upgradability Upgradability.read?
    reason := ← fields.required "upgradability_status_reason" base.reason text?
    processId := ← fields.optional "most_recent_process_id" base.processId text? }

end UpgradeStatus

namespace CertExpiry

/-- The names of the fields, in order. -/
def fieldNames : List String := ["sensor_cert_expiry", "sensor_cert_not_before"]

def toJson (status : CertExpiry) : Json := .obj [
  ("sensor_cert_expiry", .ofOption ofInstant status.expiry),
  ("sensor_cert_not_before", .ofOption ofInstant status.notBefore)]

def read? (reading : Reading) (base : CertExpiry) (value : Json) : Option CertExpiry := do
  let fields ← fields? reading fieldNames value
  return {
    expiry := ← fields.optional "sensor_cert_expiry" base.expiry instant?
    notBefore := ← fields.optional "sensor_cert_not_before" base.notBefore instant? }

end CertExpiry

namespace Orchestrator

/-- The names of the fields, in order. -/
def fieldNames : List String := ["version", "build_date", "api_versions"]

def toJson (orchestrator : Orchestrator) : Json := .obj [
  ("version", .str orchestrator.version),
  ("build_date", .ofOption ofInstant orchestrator.buildDate),
  ("api_versions", .ofList .str orchestrator.apiVersions)]

def read? (reading : Reading) (base : Orchestrator) (value : Json) : Option Orchestrator := do
  let fields ← fields? reading fieldNames value
  return {
    version := ← fields.required "version" base.version text?
    buildDate := ← fields.optional "build_date" base.buildDate instant?
    apiVersions := ← fields.required "api_versions" base.apiVersions (list? text?) }

end Orchestrator

namespace ClusterStatus

/-- The names of the fields, in order. -/
def fieldNames : List String :=
  ["sensor_version", "orchestrator_metadata", "upgrade_status", "cert_expiry_status"]

def toJson (status : ClusterStatus) : Json := .obj [
  ("sensor_version", .str status.sensorVersion),
  ("orchestrator_metadata", .ofOption Orchestrator.toJson status.orchestrator),
  ("upgrade_status", .ofOption UpgradeStatus.toJson status.upgrade),
  ("cert_expiry_status", .ofOption CertExpiry.toJson status.certExpiry)]

def read? (reading : Reading) (base : ClusterStatus) (value : Json) : Option ClusterStatus := do
  let fields ← fields? reading fieldNames value
  return {
    sensorVersion := ← fields.required "sensor_version" base.sensorVersion text?
    orchestrator := ← fields.optional "orchestrator_metadata" base.orchestrator
      (Orchestrator.read? reading default)
    upgrade := ← fields.optional "upgrade_status" base.upgrade (UpgradeStatus.read? reading default)
    certExpiry := ← fields.optional "cert_expiry_status" base.certExpiry
      (CertExpiry.read? reading default) }

end ClusterStatus

namespace AuditPosition

/-- The names of the fields, in order. -/
def fieldNames : List String := ["collect_logs_since", "last_audit_id"]

def toJson (position : AuditPosition) : Json := .obj [
  ("collect_logs_since", .ofOption ofInstant position.collectSince),
  ("last_audit_id", .str position.lastAuditId)]

def read? (reading : Reading) (base : AuditPosition) (value : Json) : Option AuditPosition := do
  let fields ← fields? reading fieldNames value
  return {
    collectSince := ← fields.optional "collect_logs_since" base.collectSince instant?
    lastAuditId := ← fields.required "last_audit_id" base.lastAuditId text? }

end AuditPosition

namespace HealthLevel

/-- Every level. -/
def all : List HealthLevel := [.uninitialized, .unavailable, .unhealthy, .degraded, .healthy]

/-- The written form. -/
def label : HealthLevel → String
  | uninitialized => "UNINITIALIZED"
  | unavailable => "UNAVAILABLE"
  | unhealthy => "UNHEALTHY"
  | degraded => "DEGRADED"
  | healthy => "HEALTHY"

def toJson (level : HealthLevel) : Json := .str level.label

def read? : Json → Option HealthLevel := labelled? all label

end HealthLevel

namespace CollectorRollout

/-- The names of the fields, in order. -/
def fieldNames : List String := ["total_desired_pods", "total_ready_pods", "status_errors"]

def toJson (rollout : CollectorRollout) : Json := .obj [
  ("total_desired_pods", ofInt32 rollout.desiredPods),
  ("total_ready_pods", ofInt32 rollout.readyPods),
  ("status_errors", .ofList .str rollout.errors)]

def read? (reading : Reading) (base : CollectorRollout) (value : Json) :
    Option CollectorRollout := do
  let fields ← fields? reading fieldNames value
  return {
    desiredPods := ← fields.required "total_desired_pods" base.desiredPods int32?
    readyPods := ← fields.required "total_ready_pods" base.readyPods int32?
    errors := ← fields.required "status_errors" base.errors (list? text?) }

end CollectorRollout

namespace Health

/-- The names of the fields, in order. -/
def fieldNames : List String :=
  ["sensor_health_status", "collector_health_status", "admission_control_health_status",
    "collector_health_info", "last_contact"]

def toJson (health : Health) : Json := .obj [
  ("sensor_health_status", .ofOption HealthLevel.toJson health.sensor),
  ("collector_health_status", .ofOption HealthLevel.toJson health.collector),
  ("admission_control_health_status", .ofOption HealthLevel.toJson health.admission),
  ("collector_health_info", .ofOption CollectorRollout.toJson health.rollout),
  ("last_contact", .ofOption ofInstant health.lastContact)]

def read? (reading : Reading) (base : Health) (value : Json) : Option Health := do
  let fields ← fields? reading fieldNames value
  return {
    sensor := ← fields.optional "sensor_health_status" base.sensor HealthLevel.read?
    collector := ← fields.optional "collector_health_status" base.collector HealthLevel.read?
    admission := ← fields.optional "admission_control_health_status" base.admission HealthLevel.read?
    rollout := ← fields.optional "collector_health_info" base.rollout
      (CollectorRollout.read? reading default)
    lastContact := ← fields.optional "last_contact" base.lastContact instant? }

end Health

end Fleet
