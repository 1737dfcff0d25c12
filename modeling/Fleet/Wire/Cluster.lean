import Fleet.Announcement
import Fleet.Json.Reader
import Fleet.Wire.Config
import Fleet.Wire.Status

/-!
# Records and announcements as JSON

The written form of cluster records and announcements, and its readers. What is looked up when a
record is read, its health and priority, is no part of the stored form; a view shows it as well.
-/

namespace Fleet

open Wire

namespace Cluster

/-- The names of the stored fields, in order. -/
def fieldNames : List String :=
  ["id", "name", "cluster_type", "labels", "main_image", "collector_image", "central_api_endpoint",
    "runtime_support", "collection_method", "admission_controller", "admission_controller_updates",
    "admission_controller_events", "tolerations_config", "slim_collector", "dynamic_config",
    "managed_config", "most_recent_sensor_id", "status", "audit_log_state"]

/-- The stored fields with their values. -/
def members (cluster : Cluster) : List (String × Json) := [
  ("id", .str cluster.id),
  ("name", .str cluster.name),
  ("cluster_type", cluster.kind.toJson),
  ("labels", ofTable .str cluster.labels),
  ("main_image", .str cluster.mainImage),
  ("collector_image", .str cluster.collectorImage),
  ("central_api_endpoint", .str cluster.endpoint),
  ("runtime_support", .bool cluster.runtimeSupport),
  ("collection_method", cluster.collectionMethod.toJson),
  ("admission_controller", .bool cluster.admissionController),
  ("admission_controller_updates", .bool cluster.admissionUpdates),
  ("admission_controller_events", .bool cluster.admissionEvents),
  ("tolerations_config", .ofOption Tolerations.toJson cluster.tolerations),
  ("slim_collector", .bool cluster.slimCollector),
  ("dynamic_config", .ofOption DynamicConfig.toJson cluster.dynamic),
  ("managed_config", .ofOption ManagedConfig.toJson cluster.managed),
  ("most_recent_sensor_id", .ofOption SensorIdentity.toJson cluster.sensor),
  ("status", .ofOption ClusterStatus.toJson cluster.status),
  ("audit_log_state", ofTable AuditPosition.toJson cluster.auditLogs)]

/-- The stored form. -/
def toJson (cluster : Cluster) : Json := .obj cluster.members

/-- The stored form together with health and priority. -/
def view (cluster : Cluster) : Json :=
  .obj (cluster.members ++ [
    ("health_status", .ofOption Health.toJson cluster.health),
    ("priority", .int cluster.priority)])

/-- Read the stored fields; health and priority come from the base. -/
def read? (reading : Reading) (base : Cluster) (value : Json) : Option Cluster := do
  let fields ← fields? reading fieldNames value
  return {
    id := ← fields.required "id" base.id text?
    name := ← fields.required "name" base.name text?
    kind := ← fields.required "cluster_type" base.kind ClusterKind.read?
    labels := ← fields.required "labels" base.labels (table? text?)
    mainImage := ← fields.required "main_image" base.mainImage text?
    collectorImage := ← fields.required "collector_image" base.collectorImage text?
    endpoint := ← fields.required "central_api_endpoint" base.endpoint text?
    runtimeSupport := ← fields.required "runtime_support" base.runtimeSupport bool?
    collectionMethod := ← fields.required "collection_method" base.collectionMethod
      CollectionMethod.read?
    admissionController := ← fields.required "admission_controller" base.admissionController bool?
    admissionUpdates := ← fields.required "admission_controller_updates" base.admissionUpdates bool?
    admissionEvents := ← fields.required "admission_controller_events" base.admissionEvents bool?
    tolerations := ← fields.optional "tolerations_config" base.tolerations
      (Tolerations.read? reading default)
    slimCollector := ← fields.required "slim_collector" base.slimCollector bool?
    dynamic := ← fields.optional "dynamic_config" base.dynamic (DynamicConfig.read? reading default)
    managed := ← fields.optional "managed_config" base.managed (ManagedConfig.read? reading default)
    sensor := ← fields.optional "most_recent_sensor_id" base.sensor
      (SensorIdentity.read? reading default)
    status := ← fields.optional "status" base.status (ClusterStatus.read? reading default)
    auditLogs := ← fields.required "audit_log_state" base.auditLogs
      (table? (AuditPosition.read? reading default))
    health := base.health
    priority := base.priority }

/-- Read a view leniently: the stored fields, health and priority, each as in the base where it is
missing. -/
def readView? (base : Cluster) (value : Json) : Option Cluster := do
  let cluster ← read? .lenient base value
  let fields ← fields? .lenient [] value
  return { cluster with
    health := ← fields.optional "health_status" base.health (Health.read? .lenient default)
    priority := ← fields.required "priority" base.priority int64? }

end Cluster

namespace Declaration

/-- The names of the fields, in order. -/
def fieldNames : List String := ["cluster_name", "cluster_config", "not_managed"]

def toJson (declaration : Declaration) : Json := .obj [
  ("cluster_name", .str declaration.name),
  ("cluster_config", .ofOption ManagedConfig.toJson declaration.config),
  ("not_managed", .bool declaration.notManaged)]

def read? (reading : Reading) (base : Declaration) (value : Json) : Option Declaration := do
  let fields ← fields? reading fieldNames value
  return {
    name := ← fields.required "cluster_name" base.name text?
    config := ← fields.optional "cluster_config" base.config (ManagedConfig.read? reading default)
    notManaged := ← fields.required "not_managed" base.notManaged bool? }

end Declaration

namespace Announcement

/-- The names of the fields, in order. -/
def fieldNames : List String := ["cluster_id", "identification", "managed_config_init"]

def toJson (announcement : Announcement) : Json := .obj [
  ("cluster_id", .ofText? announcement.clusterId),
  ("identification", .ofOption SensorIdentity.toJson announcement.sensor),
  ("managed_config_init", .ofOption Declaration.toJson announcement.declaration)]

def read? (reading : Reading) (base : Announcement) (value : Json) : Option Announcement := do
  let fields ← fields? reading fieldNames value
  return {
    clusterId := ← fields.optional "cluster_id" base.clusterId text?
    sensor := ← fields.optional "identification" base.sensor (SensorIdentity.read? reading default)
    declaration := ← fields.optional "managed_config_init" base.declaration
      (Declaration.read? reading default) }

end Announcement

namespace Wire

/-- Read a text that holds the written form of the named type exactly, and write it again; nothing if
there is no such type or the text does not have its form. -/
def reencode? (typeName text : String) : Option Json := do
  let value ← Json.read? text
  match typeName with
  | "CollectionMethod" => return (← CollectionMethod.read? value).toJson
  | "ClusterType" => return (← ClusterKind.read? value).toJson
  | "Upgradability" => return (← Upgradability.read? value).toJson
  | "HealthLevel" => return (← HealthLevel.read? value).toJson
  | "AdmissionControllerConfig" => return (← AdmissionConfig.read? .exact default value).toJson
  | "DynamicConfig" => return (← DynamicConfig.read? .exact default value).toJson
  | "TolerationsConfig" => return (← Tolerations.read? .exact default value).toJson
  | "StaticConfig" => return (← StaticConfig.read? .exact default value).toJson
  | "CompleteClusterConfig" => return (← ManagedConfig.read? .exact default value).toJson
  | "SensorIdentification" => return (← SensorIdentity.read? .exact default value).toJson
  | "ClusterUpgradeStatus" => return (← UpgradeStatus.read? .exact default value).toJson
  | "ClusterCertExpiryStatus" => return (← CertExpiry.read? .exact default value).toJson
  | "OrchestratorMetadata" => return (← Orchestrator.read? .exact default value).toJson
  | "ClusterStatus" => return (← ClusterStatus.read? .exact default value).toJson
  | "CollectorHealthInfo" => return (← CollectorRollout.read? .exact default value).toJson
  | "HealthStatus" => return (← Health.read? .exact default value).toJson
  | "AuditLogFileState" => return (← AuditPosition.read? .exact default value).toJson
  | "Cluster" => return (← Cluster.read? .exact default value).toJson
  | "ManagedConfigInit" => return (← Declaration.read? .exact default value).toJson
  | "RegistrationAnnouncement" => return (← Announcement.read? .exact default value).toJson
  | _ => none

end Wire

end Fleet
