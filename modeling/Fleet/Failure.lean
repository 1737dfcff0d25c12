import Fleet.Text.Quoted

/-!
# Failures

Why the registry refuses or cannot finish a call. Four kinds are the caller's to mend; only a failure
of a collaborator may clear up by itself and is worth another try.
-/

namespace Fleet

open Fleet.Text

/-- Why a call failed. -/
inductive Failure where
  /-- The input about `cluster` is malformed or incomplete, at `field` if one is to blame. -/
  | invalid (cluster message : String) (field : Option String)
  /-- The caller may not do this to the cluster. -/
  | denied (cluster : String)
  /-- No such cluster is stored. -/
  | notFound (cluster : String)
  /-- A name is taken, or another agent may not take the cluster over. -/
  | conflict (cluster message : String)
  /-- The collaborator named by `context` failed. -/
  | dependency (context message : String)
deriving DecidableEq, Repr

namespace Failure

/-- The text shown to a caller. -/
def message : Failure → String
  | invalid cluster message _ => "validation error for " ++ cluster ++ ": " ++ message
  | denied cluster => "access denied to Cluster for cluster " ++ cluster
  | notFound cluster => "cluster " ++ cluster ++ " not found"
  | conflict cluster message => "conflict for cluster " ++ cluster ++ ": " ++ message
  | dependency context message => "dependency error [" ++ context ++ "]: " ++ message

/-- The cluster a failure is about, if it is about one. -/
def cluster? : Failure → Option String
  | invalid cluster _ _ => some cluster
  | denied cluster => some cluster
  | notFound cluster => some cluster
  | conflict cluster _ => some cluster
  | dependency _ _ => none

/-- The collaborator that failed, if one did. -/
def context? : Failure → Option String
  | dependency context _ => some context
  | _ => none

/-- The field to blame, if one is. -/
def field? : Failure → Option String
  | invalid _ _ field => field
  | _ => none

/-- Whether the same call may succeed later. -/
def isRetryable : Failure → Bool
  | dependency _ _ => true
  | _ => false

/-- Whether the cluster is not stored. -/
def isNotFound : Failure → Bool
  | notFound _ => true
  | _ => false

/-- Whether the call met a conflict. -/
def isConflict : Failure → Bool
  | conflict _ _ => true
  | _ => false

/-! ## Causes -/

/-- Input that is not about a known cluster. -/
def unplaced (message : String) : Failure :=
  invalid "unknown" message none

/-- Input about a cluster with one field to blame. -/
def atField (cluster field message : String) : Failure :=
  invalid cluster message (some field)

/-- A name without a character other than blanks. -/
def blankName (name : String) : Failure :=
  atField name "name" "cluster name must not be empty"

/-- An image reference with a blank in it. -/
def badImage (name image : String) : Failure :=
  atField name "main_image" ("invalid main image " ++ quoted image)

/-- A negative timeout of the admission controller. -/
def negativeTimeout (name seconds : String) : Failure :=
  atField name "dynamic_config.admission_controller_config.timeout_seconds"
    ("admission controller timeout must be non-negative, got " ++ seconds)

/-- A new cluster that brings an id of its own. -/
def idPreset (id : String) : Failure :=
  atField id "id" "id may not be set when creating a cluster"

/-- An update that does not say which cluster it is for. -/
def updateWithoutId (name : String) : Failure :=
  atField name "id" "cluster id is required for an update"

/-- A report that does not say which cluster it is for. -/
def reportWithoutId (subject : String) : Failure :=
  atField "" "id" ("cannot update " ++ subject ++ ": cluster id not provided")

/-- An audit log report without a position. -/
def noAuditPositions (id : String) : Failure :=
  atField id "audit_log_state" "no audit log file states provided"

/-- An announcement that carries neither an id nor a name. -/
def anonymous : Failure :=
  unplaced "neither a cluster id nor a cluster name was announced"

/-- A new cluster under the name of a registered one. -/
def nameTaken (name owner : String) : Failure :=
  conflict name ("name already in use by cluster " ++ owner)

/-- An update under another name than the stored one. -/
def renamed (stored given : String) : Failure :=
  conflict stored ("cluster name change from " ++ stored ++ " to " ++ given ++ " not permitted")

/-- An announcement under another name than the stored one. -/
def nameMismatch (id stored announced : String) : Failure :=
  conflict stored ("name mismatch for cluster " ++ id ++ ": expected " ++ quoted stored ++ ", but "
    ++ quoted announced ++ " was announced")

/-- A takeover that is refused for another `wait` seconds, and why. -/
def takeoverRefused (name reason wait : String) : Failure :=
  conflict name ("registering a new sensor is not allowed: " ++ reason
    ++ "; if you recently re-deployed, please wait for another " ++ wait ++ "s")

/-- A cluster that is stored but has no flow store because of another failure. -/
def flowStoreMissing (id : String) (cause : Failure) : Failure :=
  dependency "flow-store" ("cluster " ++ id ++ " created but flow store failed: " ++ cause.message)

/-- A setting that cannot be read. -/
def badSetting (setting value : String) : Failure :=
  atField "config" setting ("cannot parse " ++ quoted value)

/-- A teardown queue without room for a single job. -/
def noQueueRoom (setting : String) : Failure :=
  atField "config" setting "queue capacity must be at least 1"

/-- A log level that does not exist. -/
def badLogLevel (setting value : String) : Failure :=
  atField "config" setting ("unknown log level " ++ quoted value)

end Failure

end Fleet
