import Fleet.Settings

/-!
# Telemetry settings

How much a process logs, where it exports to, and the attributes that go with what it exports.
-/

namespace Fleet

open Fleet.Text

/-- The value of an attribute. -/
inductive AttributeValue where
  | text (value : String)
  | number (value : Nat)
deriving DecidableEq, Repr

/-- How a process logs and exports. -/
structure Telemetry where
  serviceName : String := "outpost"
  /-- Where to export to; logs only if there is nowhere. -/
  endpoint : Option String := none
  instanceId : Option String := none
  logLevel : String := "debug"
  /-- The settings of the registry, if they are to be exported. -/
  registry : Option Settings := none
deriving DecidableEq

namespace Telemetry

instance : Inhabited Telemetry := ⟨{}⟩

/-- The levels there are. -/
def logLevels : List String := ["trace", "debug", "info", "warn", "error"]

/-- The targets that log at the configured level; all others log at `info`. -/
def ownTargets : List String := ["outpost", "outpost_cluster", "outpost_common"]

/-- The variable for the log level. -/
def levelVariable : String := "OUTPOST_LOG_LEVEL"

/-- The variable for the endpoint. -/
def endpointVariable : String := "OTEL_EXPORTER_OTLP_ENDPOINT"

/-- The variable for the id of this process among its replicas. -/
def instanceVariable : String := "OUTPOST_INSTANCE_ID"

/-- The version that is reported. -/
def version : String := "0.1.0"

/-- A setting without the blanks around it; one of nothing but blanks counts as not set. -/
def nonBlank (value : Option String) : Option String :=
  (value.map trim).filter (· ≠ "")

/-- The log level that an environment asks for, in any case of its letters. -/
def readLevel (env : Environment) : Except Failure String :=
  match env.get? levelVariable with
  | none => .ok (default : Telemetry).logLevel
  | some raw =>
    let level := (trim raw).map Char.toLower
    if logLevels.contains level then .ok level else .error (.badLogLevel levelVariable raw)

/-- The telemetry settings that an environment asks for. -/
def ofEnvironment (serviceName : String) (env : Environment) : Except Failure Telemetry := do
  let level ← readLevel env
  return {
    serviceName
    endpoint := nonBlank (env.get? endpointVariable)
    instanceId := nonBlank (env.get? instanceVariable)
    logLevel := level }

/-- Export the settings of the registry too. -/
def withRegistry (telemetry : Telemetry) (settings : Settings) : Telemetry :=
  { telemetry with registry := some settings }

/-- The filter of the log: a default, and the level of each own target. -/
def directives (telemetry : Telemetry) : String :=
  ",".intercalate ("info" :: ownTargets.map (· ++ "=" ++ telemetry.logLevel))

/-- A number as an attribute; what does not fit into a signed word becomes the greatest that does. -/
def number (n : Nat) : AttributeValue :=
  .number (Nat.min n Int64.maxValue.toInt.toNat)

/-- The attributes that go with everything that is exported. -/
def attributes (telemetry : Telemetry) : List (String × AttributeValue) :=
  [("service.name", .text telemetry.serviceName), ("service.version", .text version)]
    ++ (telemetry.instanceId.map fun id => ("service.instance.id", AttributeValue.text id)).toList
    ++ match telemetry.registry with
      | none => []
      | some settings => [
        ("outpost.registry.cluster_move_grace_secs", number settings.moveGrace.wholeSeconds),
        ("outpost.registry.connection_termination_timeout_secs",
          number settings.terminationTimeout.wholeSeconds),
        ("outpost.registry.cascade_queue_capacity", number settings.queueCapacity)]

end Telemetry

end Fleet
