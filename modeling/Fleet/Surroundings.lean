import Fleet.State

/-!
# Surroundings

What happens to the state beside the calls to the registry: what other subsystems and operators put
there, what goes out of order, and what agents do. None of it can fail.
-/

namespace Fleet.State

/-- Let it be another time. -/
def setClock (state : State) (now : Instant) : State :=
  { state with now }

/-- Put a record into the store, past the registry. -/
def putRecord (state : State) (cluster : Cluster) : State :=
  { state with clusters := state.clusters.insert cluster.id cluster.stored }

/-- Put a snapshot, past the registry. -/
def putSnapshot (state : State) (id : String) (snapshot : Health) : State :=
  { state with holdings :=
      { state.holdings with health := state.holdings.health.insert id snapshot } }

/-- Enter a name into the directory, past the registry. -/
def enterName (state : State) (id name : String) : State :=
  { state with directory := state.directory.insert id name }

/-- Rank a cluster. -/
def setRank (state : State) (id : String) (rank : Int) : State :=
  { state with holdings := { state.holdings with ranks := state.holdings.ranks.insert id rank } }

/-- Grant a permission to a subject. -/
def grant (state : State) (subject : String) (permission : Permission) : State :=
  { state with grants := state.grants.grant subject permission }

/-- Put a call out of order, or back in order. -/
def setOutage (state : State) (outage : Outage) (on : Bool) : State :=
  { state with conditions := state.conditions.setOutage outage on }

/-- Take a part offline, or bring it back. -/
def setOffline (state : State) (part : Part) (on : Bool) : State :=
  { state with conditions := state.conditions.setOffline part on }

/-- Let a cluster have a resource. -/
def addResource (state : State) (kind : ResourceKind) (clusterId : String) (resource : Resource) :
    State :=
  { state with holdings := state.holdings.addResource kind clusterId resource }

/-- Let there be an alert. -/
def addAlert (state : State) (alert : Alert) : State :=
  { state with holdings := state.holdings.addAlert alert }

/-- The active alerts of a deployment. -/
def activeAlerts (state : State) (deploymentId : String) : Except Failure (List Alert) :=
  state.holdings.activeAlerts state.conditions.withoutOutages deploymentId

/-- Resolve an alert. -/
def resolveAlert (state : State) (alertId : String) : Except Failure State := do
  let holdings ← state.holdings.resolveAlert state.conditions.withoutOutages alertId
  return { state with holdings }

/-- Change what is known of the connections. -/
def withRoster (state : State) (f : Roster → Roster) : State :=
  { state with roster := f state.roster }

/-- Take up a connection. The agent that it replaces is called, and then its own. -/
def connect (state : State) (connection : Connection) : State :=
  let number := state.roster.connections.length
  let called := match state.roster.live.get? connection.clusterId with
    | none => state.agenda
    | some previous => state.agenda.callAgent state.roster previous
  { state with
    roster := state.roster.register connection
    agenda := if connection.stopDelay.isSome then called.call (.agent number) else called }

/-- Ask a connection to end. -/
def terminate (state : State) (number : Nat) (reason : String) : State :=
  { state with
    roster := state.roster.terminate number reason
    agenda := state.agenda.callAgent state.roster number }

/-- Read the counts and start them over. -/
def takeTally (state : State) : Tally × State :=
  (state.tally, { state with tally := {} })

end Fleet.State
