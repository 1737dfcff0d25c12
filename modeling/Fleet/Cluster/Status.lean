import Fleet.Instant

/-!
# What agents report

The identity of an agent, the status block of a cluster and the positions in its audit logs. The
parts of the status block are reported independently of one another.
-/

namespace Fleet

/-- What an agent says about where it runs. The two namespace ids and the name of its namespace tell
one physical cluster from another. -/
structure SensorIdentity where
  systemNamespaceId : String := ""
  defaultNamespaceId : String := ""
  appNamespace : String := ""
  appNamespaceId : String := ""
  appServiceAccountId : String := ""
  nodeName : String := ""
deriving DecidableEq, Inhabited

/-- Whether the agent can be brought to the newest version. -/
inductive Upgradability where
  | undetermined
  | upToDate
  | manualUpgradeRequired
  | autoUpgradePossible
  | sensorVersionHigher
deriving DecidableEq, Repr, Inhabited

/-- How far the upgrade of an agent is. -/
structure UpgradeStatus where
  upgradability : Upgradability := .undetermined
  reason : String := ""
  processId : Option String := none
deriving DecidableEq, Inhabited

/-- When the certificate of an agent is valid. -/
structure CertExpiry where
  expiry : Option Instant := none
  notBefore : Option Instant := none
deriving DecidableEq, Inhabited

/-- What an agent says about the orchestrator. -/
structure Orchestrator where
  version : String := ""
  buildDate : Option Instant := none
  apiVersions : List String := []
deriving DecidableEq, Inhabited

/-- The status block of a cluster. -/
structure ClusterStatus where
  sensorVersion : String := ""
  orchestrator : Option Orchestrator := none
  upgrade : Option UpgradeStatus := none
  certExpiry : Option CertExpiry := none
deriving DecidableEq, Inhabited

/-- How far the audit log of a node has been collected. -/
structure AuditPosition where
  collectSince : Option Instant := none
  lastAuditId : String := ""
deriving DecidableEq, Inhabited

end Fleet
