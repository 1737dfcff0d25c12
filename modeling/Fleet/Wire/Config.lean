import Fleet.Cluster.Config
import Fleet.Wire.Fields

/-!
# Configuration as JSON

The written form of the configuration types and its readers. Enumerated values are written by their
labels.
-/

namespace Fleet

open Wire

namespace CollectionMethod

/-- Every method. -/
def all : List CollectionMethod := [.unspecified, .off, .kernelModule, .ebpf, .coreBpf]

/-- The written form. -/
def label : CollectionMethod → String
  | unspecified => "UNSET_COLLECTION"
  | off => "NO_COLLECTION"
  | kernelModule => "KERNEL_MODULE"
  | ebpf => "EBPF"
  | coreBpf => "CORE_BPF"

def toJson (method : CollectionMethod) : Json := .str method.label

def read? : Json → Option CollectionMethod := labelled? all label

end CollectionMethod

namespace ClusterKind

/-- Every kind. -/
def all : List ClusterKind := [.generic, .kubernetes, .openshift3, .openshift4]

/-- The written form. -/
def label : ClusterKind → String
  | generic => "GENERIC_CLUSTER"
  | kubernetes => "KUBERNETES_CLUSTER"
  | openshift3 => "OPENSHIFT_CLUSTER"
  | openshift4 => "OPENSHIFT4_CLUSTER"

def toJson (kind : ClusterKind) : Json := .str kind.label

def read? : Json → Option ClusterKind := labelled? all label

end ClusterKind

namespace AdmissionConfig

/-- The names of the fields, in order. -/
def fieldNames : List String :=
  ["enabled", "timeout_seconds", "scan_inline", "disable_bypass", "enforce_on_updates"]

def toJson (config : AdmissionConfig) : Json := .obj [
  ("enabled", .bool config.enabled),
  ("timeout_seconds", ofInt32 config.timeoutSeconds),
  ("scan_inline", .bool config.scanInline),
  ("disable_bypass", .bool config.disableBypass),
  ("enforce_on_updates", .bool config.enforceOnUpdates)]

def read? (reading : Reading) (base : AdmissionConfig) (value : Json) : Option AdmissionConfig := do
  let fields ← fields? reading fieldNames value
  return {
    enabled := ← fields.required "enabled" base.enabled bool?
    timeoutSeconds := ← fields.required "timeout_seconds" base.timeoutSeconds int32?
    scanInline := ← fields.required "scan_inline" base.scanInline bool?
    disableBypass := ← fields.required "disable_bypass" base.disableBypass bool?
    enforceOnUpdates := ← fields.required "enforce_on_updates" base.enforceOnUpdates bool? }

end AdmissionConfig

namespace DynamicConfig

/-- The names of the fields, in order. -/
def fieldNames : List String :=
  ["admission_controller_config", "registry_override", "disable_audit_logs"]

def toJson (config : DynamicConfig) : Json := .obj [
  ("admission_controller_config", .ofOption AdmissionConfig.toJson config.admission),
  ("registry_override", .str config.registryOverride),
  ("disable_audit_logs", .bool config.disableAuditLogs)]

def read? (reading : Reading) (base : DynamicConfig) (value : Json) : Option DynamicConfig := do
  let fields ← fields? reading fieldNames value
  return {
    admission := ← fields.optional "admission_controller_config" base.admission
      (AdmissionConfig.read? reading default)
    registryOverride := ← fields.required "registry_override" base.registryOverride text?
    disableAuditLogs := ← fields.required "disable_audit_logs" base.disableAuditLogs bool? }

end DynamicConfig

namespace Tolerations

def toJson (tolerations : Tolerations) : Json := .single "disabled" (.bool tolerations.disabled)

def read? (reading : Reading) (base : Tolerations) (value : Json) : Option Tolerations := do
  let fields ← fields? reading ["disabled"] value
  return { disabled := ← fields.required "disabled" base.disabled bool? }

end Tolerations

namespace StaticConfig

/-- The names of the fields, in order. -/
def fieldNames : List String :=
  ["cluster_type", "main_image", "central_api_endpoint", "collection_method", "collector_image",
    "admission_controller", "admission_controller_updates", "admission_controller_events",
    "tolerations_config", "slim_collector"]

def toJson (config : StaticConfig) : Json := .obj [
  ("cluster_type", config.kind.toJson),
  ("main_image", .str config.mainImage),
  ("central_api_endpoint", .str config.endpoint),
  ("collection_method", config.collectionMethod.toJson),
  ("collector_image", .str config.collectorImage),
  ("admission_controller", .bool config.admissionController),
  ("admission_controller_updates", .bool config.admissionUpdates),
  ("admission_controller_events", .bool config.admissionEvents),
  ("tolerations_config", .ofOption Tolerations.toJson config.tolerations),
  ("slim_collector", .bool config.slimCollector)]

def read? (reading : Reading) (base : StaticConfig) (value : Json) : Option StaticConfig := do
  let fields ← fields? reading fieldNames value
  return {
    kind := ← fields.required "cluster_type" base.kind ClusterKind.read?
    mainImage := ← fields.required "main_image" base.mainImage text?
    endpoint := ← fields.required "central_api_endpoint" base.endpoint text?
    collectionMethod := ← fields.required "collection_method" base.collectionMethod
      CollectionMethod.read?
    collectorImage := ← fields.required "collector_image" base.collectorImage text?
    admissionController := ← fields.required "admission_controller" base.admissionController bool?
    admissionUpdates := ← fields.required "admission_controller_updates" base.admissionUpdates bool?
    admissionEvents := ← fields.required "admission_controller_events" base.admissionEvents bool?
    tolerations := ← fields.optional "tolerations_config" base.tolerations
      (Tolerations.read? reading default)
    slimCollector := ← fields.required "slim_collector" base.slimCollector bool? }

end StaticConfig

namespace ManagedConfig

/-- The names of the fields, in order. -/
def fieldNames : List String :=
  ["dynamic_config", "static_config", "cluster_labels", "config_fingerprint"]

def toJson (config : ManagedConfig) : Json := .obj [
  ("dynamic_config", .ofOption DynamicConfig.toJson config.dynamic),
  ("static_config", config.static.toJson),
  ("cluster_labels", ofTable .str config.labels),
  ("config_fingerprint", .str config.fingerprint)]

def read? (reading : Reading) (base : ManagedConfig) (value : Json) : Option ManagedConfig := do
  let fields ← fields? reading fieldNames value
  return {
    dynamic := ← fields.optional "dynamic_config" base.dynamic (DynamicConfig.read? reading default)
    static := ← fields.required "static_config" base.static (StaticConfig.read? reading default)
    labels := ← fields.required "cluster_labels" base.labels (table? text?)
    fingerprint := ← fields.required "config_fingerprint" base.fingerprint text? }

end ManagedConfig

end Fleet
