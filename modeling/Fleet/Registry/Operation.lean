import Fleet.Registry.Removal
import Fleet.Registry.Writes

/-!
# Operations

The calls that the registry offers, as data, so that whole runs of them can be spoken of.
-/

namespace Fleet

/-- A call to the registry. -/
inductive Operation where
  | rebuild
  | read (id : String)
  | readAll
  | isRegistered (id : String)
  | nameOf (id : String)
  | search (query : Query)
  | searchRecords (query : Query)
  | count (query : Query)
  | pending
  | create (cluster : Cluster)
  | update (cluster : Cluster)
  | updateHealth (id : String) (report : Health)
  | updateUpgradeStatus (id : String) (upgrade : UpgradeStatus)
  | updateCertExpiry (id : String) (expiry : CertExpiry)
  | updateStatus (id : String) (status : ClusterStatus)
  | updateSensor (id : String) (sensor : SensorIdentity)
  | updateAuditLogs (id : String) (positions : Table AuditPosition)
  | remove (id : String) (ticket : Option Nat)
  | announce (announcement : Announcement)

/-- What a call is answered with. -/
inductive Answer where
  | done
  | flag (value : Bool)
  | number (value : Nat)
  | id (value : String)
  | name (value : Option String)
  | hits (value : List Hit)
  | record (value : Cluster)
  | records (value : List Cluster)
  | delivery (value : Delivery)

namespace Operation

/-- Make a call on behalf of a scope. -/
def run (scope : Scope) : Operation → Action Answer
  | rebuild => do Registry.rebuild; return .done
  | read id => return .record (← Registry.read scope id)
  | readAll => return .records (← Registry.readAll scope)
  | isRegistered id => return .flag (← Registry.isRegistered scope id)
  | nameOf id => return .name (← Registry.nameOf scope id)
  | search query => return .hits (← Registry.search scope query)
  | searchRecords query => return .records (← Registry.searchRecords scope query)
  | count query => return .number (← Registry.count scope query)
  | pending => return .number (← Registry.pending)
  | create cluster => return .id (← Registry.create scope cluster)
  | update cluster => return .delivery (← Registry.update scope cluster)
  | updateHealth id report => do Registry.updateHealth scope id report; return .done
  | updateUpgradeStatus id upgrade => do
    Registry.updateUpgradeStatus scope id upgrade
    return .done
  | updateCertExpiry id expiry => do Registry.updateCertExpiry scope id expiry; return .done
  | updateStatus id status => do Registry.updateStatus scope id status; return .done
  | updateSensor id sensor => do Registry.updateSensor scope id sensor; return .done
  | updateAuditLogs id positions => do Registry.updateAuditLogs scope id positions; return .done
  | remove id ticket => do Registry.remove scope id ticket; return .done
  | announce announcement => return .record (← Registry.announce scope announcement)

end Operation

end Fleet
