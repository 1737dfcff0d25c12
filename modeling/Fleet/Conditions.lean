import Fleet.Failure
import Fleet.Subsystem

/-!
# Conditions

Which collaborators of the registry work at the moment. A call to a collaborator can be out of order,
for everything or for one id only, and fails then before it does anything; some collaborators can
also be offline as a whole.
-/

namespace Fleet

/-- The calls that the registry makes to its collaborators. -/
inductive Call where
  | clusterGet
  | clusterPut
  | clusterDelete
  | clusterWalk
  | clusterCount
  | healthGet
  | healthGetMany
  | healthPut
  | healthWalk
  | healthDelete
  | indexAdd
  | indexAddMany
  | indexDelete
  | indexSearch
  | accessRead
  | accessWrite
  | flowCreate
  | alertSearch
  | alertMarkStale
  | resourceSearch (kind : ResourceKind)
  | resourceRemove (kind : ResourceKind)
deriving DecidableEq, Repr

namespace Call

/-- The collaborator that answers the call. -/
def collaborator : Call → String
  | clusterGet | clusterPut | clusterDelete | clusterWalk | clusterCount => "clusters"
  | healthGet | healthGetMany | healthPut | healthWalk | healthDelete => "health"
  | indexAdd | indexAddMany | indexDelete | indexSearch => "index"
  | accessRead | accessWrite => "access"
  | flowCreate => "flows"
  | alertSearch | alertMarkStale => "alerts"
  | resourceSearch kind | resourceRemove kind => kind.label

/-- What the collaborator calls it. -/
def method : Call → String
  | clusterGet | healthGet => "get"
  | clusterPut | healthPut => "upsert"
  | clusterDelete | healthDelete | indexDelete => "delete"
  | clusterWalk | healthWalk => "walk"
  | clusterCount => "count"
  | healthGetMany => "get_many"
  | indexAdd => "add"
  | indexAddMany => "add_many"
  | indexSearch | alertSearch | resourceSearch _ => "search"
  | accessRead => "read"
  | accessWrite => "write"
  | flowCreate => "create"
  | alertMarkStale => "mark_stale"
  | resourceRemove _ => "remove"

/-- The full name of the call. -/
def name (call : Call) : String :=
  call.collaborator ++ "." ++ call.method

/-- The failure of a call that is out of order. -/
def failure (call : Call) : Failure :=
  .dependency call.collaborator (call.method ++ " failed")

end Call

/-- A call that is out of order, for one id or for all. -/
structure Outage where
  target : String
  id : Option String
deriving DecidableEq, Repr

/-- A collaborator that can be offline as a whole. -/
inductive Part where
  | index
  | flows
  | alerts
  | resources (kind : ResourceKind)
deriving DecidableEq, Repr

namespace Part

/-- The part with a label. -/
def ofLabel? : String → Option Part
  | "index" => some .index
  | "flows" => some .flows
  | "alerts" => some .alerts
  | label => (ResourceKind.ofLabel? label).map .resources

/-- What a part answers while it is offline. -/
def failure : Part → Failure
  | index => .dependency "search-index" "index unavailable"
  | flows => .dependency "flow-store" "provisioning unavailable"
  | alerts => .dependency "alerts" "store unavailable"
  | resources kind => .dependency kind.ownerName "store unavailable"

end Part

/-- The calls that are out of order and the parts that are offline. -/
structure Conditions where
  outages : List Outage := []
  offline : List Part := []
deriving DecidableEq, Inhabited

namespace Conditions

/-- Put a call out of order, or back in order. -/
def setOutage (conditions : Conditions) (outage : Outage) (on : Bool) : Conditions :=
  let others := conditions.outages.filter (· ≠ outage)
  { conditions with outages := if on then outage :: others else others }

/-- Take a part offline, or bring it back. -/
def setOffline (conditions : Conditions) (part : Part) (on : Bool) : Conditions :=
  let others := conditions.offline.filter (· ≠ part)
  { conditions with offline := if on then part :: others else others }

/-- The same conditions with every call in order. -/
def withoutOutages (conditions : Conditions) : Conditions :=
  { conditions with outages := [] }

/-- Whether a call for an id is out of order. -/
def isOut (conditions : Conditions) (call : Call) (id : String) : Bool :=
  conditions.outages.any fun outage => outage.target = call.name && outage.id.all (· = id)

/-- Nothing, if the call for the id is in order. -/
def check (conditions : Conditions) (call : Call) (id : String) : Except Failure Unit :=
  if conditions.isOut call id then .error call.failure else .ok ()

/-- Nothing, if the part is not offline. -/
def checkPart (conditions : Conditions) (part : Part) : Except Failure Unit :=
  if conditions.offline.contains part then .error part.failure else .ok ()

end Conditions

end Fleet
