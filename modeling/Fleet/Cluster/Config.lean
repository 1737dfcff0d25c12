import Fleet.Table

/-!
# Cluster configuration

What an operator or a declaration sets for a cluster: the part that a running agent can take on at
once, the part that needs a new deployment, and the two together with a fingerprint.
-/

namespace Fleet

/-- How runtime data is collected on the nodes of a cluster. -/
inductive CollectionMethod where
  | unspecified
  | off
  | kernelModule
  | ebpf
  | coreBpf
deriving DecidableEq, Repr, Inhabited

/-- The orchestrator a cluster runs on. -/
inductive ClusterKind where
  | generic
  | kubernetes
  | openshift3
  | openshift4
deriving DecidableEq, Repr, Inhabited

/-- Whether the orchestrator offers its audit log. -/
def ClusterKind.hasAuditLogs (kind : ClusterKind) : Bool :=
  kind = .openshift4

/-- What the admission controller of a cluster does. A timeout of zero asks for the default. -/
structure AdmissionConfig where
  enabled : Bool := false
  timeoutSeconds : Int32 := 0
  scanInline : Bool := false
  disableBypass : Bool := false
  enforceOnUpdates : Bool := false
deriving DecidableEq

instance : Inhabited AdmissionConfig := ⟨⟨false, 0, false, false, false⟩⟩

/-- The configuration that a running agent takes on at once. -/
structure DynamicConfig where
  admission : Option AdmissionConfig := none
  registryOverride : String := ""
  disableAuditLogs : Bool := false
deriving DecidableEq, Inhabited

/-- Whether collectors keep off tainted nodes. -/
structure Tolerations where
  disabled : Bool := false
deriving DecidableEq, Inhabited

/-- The configuration that takes a new deployment. -/
structure StaticConfig where
  kind : ClusterKind := .generic
  mainImage : String := ""
  endpoint : String := ""
  collectionMethod : CollectionMethod := .unspecified
  collectorImage : String := ""
  admissionController : Bool := false
  admissionUpdates : Bool := false
  admissionEvents : Bool := false
  tolerations : Option Tolerations := none
  slimCollector : Bool := false
deriving DecidableEq, Inhabited

/-- A declared configuration. Equal fingerprints stand for equal declarations. -/
structure ManagedConfig where
  dynamic : Option DynamicConfig := none
  static : StaticConfig := {}
  labels : Table String := .empty
  fingerprint : String := ""
deriving DecidableEq, Inhabited

end Fleet
