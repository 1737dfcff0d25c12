import Fleet.Cluster

/-!
# Announcements

What an agent says when it connects: perhaps the id from its credentials, perhaps who it is, and
perhaps a declared configuration to be managed by. Announcements are not stored.
-/

namespace Fleet

/-- The declared part of an announcement. -/
structure Declaration where
  name : String := ""
  config : Option ManagedConfig := none
  /-- The agent was deployed without a declaration, whatever `config` holds. -/
  notManaged : Bool := false
deriving DecidableEq, Inhabited

/-- An agent announcing itself. -/
structure Announcement where
  clusterId : Option String := none
  sensor : Option SensorIdentity := none
  declaration : Option Declaration := none
deriving DecidableEq, Inhabited

namespace Announcement

/-- The announced name, empty if there is none. -/
def name (announcement : Announcement) : String :=
  (announcement.declaration.map (·.name)).getD ""

/-- The configuration that is to manage the cluster; none if the agent is not to be managed. -/
def managed (announcement : Announcement) : Option ManagedConfig :=
  (announcement.declaration.filter (!·.notManaged)).bind (·.config)

/-- The configuration that is announced, whether it is to manage the cluster or not. -/
def config (announcement : Announcement) : Option ManagedConfig :=
  announcement.declaration.bind (·.config)

/-- The record of a cluster that is announced for the first time. -/
def newCluster (announcement : Announcement) : Cluster :=
  let named : Cluster := { name := announcement.name, sensor := announcement.sensor }
  let configured := match announcement.config with
    | none => named
    | some config => named.configure config
  { configured with managed := announcement.managed }

end Announcement

end Fleet
