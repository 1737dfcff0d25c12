import Fleet.Cluster
import Fleet.Failure
import Fleet.Text.Blank
import Fleet.Text.Decimal

/-!
# Normal records

The form that a record takes before it is stored: defaults filled in, derived fields set, and the
two checks that it has to pass. `Normal` says what holds of a record afterwards.
-/

namespace Fleet.Cluster

open Fleet.Text

/-- The endpoint without the scheme in front of it, if there is one. -/
def bareEndpoint (endpoint : String) : String :=
  let chars := endpoint.toList
  if "https://".toList.isPrefixOf chars then String.ofList (chars.drop 8)
  else if "http://".toList.isPrefixOf chars then String.ofList (chars.drop 7)
  else endpoint

/-- Fill in the defaults other than the admission timeout. -/
def fill (cluster : Cluster) : Cluster :=
  let method :=
    if cluster.collectionMethod = .unspecified then .kernelModule else cluster.collectionMethod
  let dynamic := cluster.dynamic.getD default
  { cluster with
    endpoint := bareEndpoint cluster.endpoint
    collectionMethod := method
    runtimeSupport := method ≠ .off
    tolerations := some (cluster.tolerations.getD default)
    dynamic := some
      { dynamic with
        disableAuditLogs := dynamic.disableAuditLogs || !cluster.kind.hasAuditLogs
        admission := some (dynamic.admission.getD default) } }

/-- The timeout of the admission controller, zero where nothing is configured. -/
def admissionTimeout (cluster : Cluster) : Int32 :=
  (((cluster.dynamic.getD default).admission).getD default).timeoutSeconds

/-- Set the timeout of the admission controller. -/
def withAdmissionTimeout (cluster : Cluster) (seconds : Int32) : Cluster :=
  { cluster with dynamic := cluster.dynamic.map fun dynamic =>
      { dynamic with admission := dynamic.admission.map fun admission =>
          { admission with timeoutSeconds := seconds } } }

/-- Fill in every default, and what is wrong with the timeout of the admission controller, if
something is: a negative one is refused, and zero becomes the default. -/
def normalize (defaultTimeout : Int32) (cluster : Cluster) : Cluster × Option Failure :=
  let filled := cluster.fill
  let timeout := filled.admissionTimeout
  if timeout < 0 then (filled, some (.negativeTimeout cluster.name (writeInt timeout.toInt)))
  else if timeout = 0 then (filled.withAdmissionTimeout defaultTimeout, none)
  else (filled, none)

/-- What forbids storing a record, if something does. -/
def objection? (cluster : Cluster) : Option Failure :=
  if isBlankText cluster.name then some (.blankName cluster.name)
  else if cluster.mainImage.toList.any isBlank then
    some (.badImage cluster.name cluster.mainImage)
  else none

/-- The record in the form to store, or why it may not be stored. -/
def prepare (defaultTimeout : Int32) (cluster : Cluster) : Except Failure Cluster :=
  match cluster.normalize defaultTimeout with
  | (_, some failure) => .error failure
  | (normal, none) =>
    match normal.objection? with
    | some failure => .error failure
    | none => .ok normal

/-- What holds of every record in normal form. -/
structure Normal (cluster : Cluster) : Prop where
  named : isBlankText cluster.name = false
  image : cluster.mainImage.toList.any isBlank = false
  method : cluster.collectionMethod ≠ .unspecified
  runtime : cluster.runtimeSupport = true ↔ cluster.collectionMethod ≠ .off
  tolerations : cluster.tolerations.isSome
  admission : ∃ dynamic admission, cluster.dynamic = some dynamic ∧
    dynamic.admission = some admission ∧ 0 < admission.timeoutSeconds ∧
    (cluster.kind.hasAuditLogs = false → dynamic.disableAuditLogs = true)

end Fleet.Cluster
