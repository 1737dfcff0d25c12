import Fleet.Cluster.Config
import Fleet.Instant

/-!
# Agent connections

The connections of agents. Each cluster has at most one that is live, the one that registered last;
the one it replaces is asked to end. A connection is known by the number under which it registered,
so that one which ends late cannot end its successor.
-/

namespace Fleet

/-- A connection of an agent. -/
structure Connection where
  clusterId : String
  version : String
  /-- How many commands wait at most for the agent to take them. -/
  capacity : Nat
  /-- Commands the agent has not taken yet. -/
  inbox : List DynamicConfig := []
  /-- Whether the agent still takes commands. -/
  receiving : Bool := true
  /-- Why the connection was asked to end, if it was. -/
  ending : Option String := none
  /-- Whether the connection has ended. -/
  stopped : Bool := false
  /-- How long the agent takes to end after being asked; none if it never does. -/
  stopDelay : Option Duration := none
deriving DecidableEq, Inhabited

namespace Connection

/-- Ask the connection to end. The first reason stands. -/
def terminate (connection : Connection) (reason : String) : Connection :=
  { connection with ending := connection.ending <|> some reason }

end Connection

/-- What became of a command. -/
inductive Delivery where
  /-- No connection is live. -/
  | unconnected
  | queued
  /-- There is no room for the command. -/
  | full
  /-- The connection was asked to end, or the agent takes no more commands. -/
  | closed
deriving DecidableEq, Repr

/-- The connections, by number, and which of them is live for which cluster. -/
structure Roster where
  connections : List Connection := []
  live : Table Nat := .empty
deriving DecidableEq, Inhabited

namespace Roster

/-- Change one connection. -/
def change (roster : Roster) (number : Nat) (f : Connection → Connection) : Roster :=
  { roster with connections := roster.connections.modify number f }

/-- Ask a connection to end. -/
def terminate (roster : Roster) (number : Nat) (reason : String) : Roster :=
  roster.change number (·.terminate reason)

/-- Take up a connection as the live one of its cluster and ask the one before it to end. -/
def register (roster : Roster) (connection : Connection) : Roster :=
  let ended := match roster.live.get? connection.clusterId with
    | none => roster
    | some previous => roster.terminate previous "replaced by a newer connection"
  { connections := ended.connections ++ [connection]
    live := ended.live.insert connection.clusterId ended.connections.length }

/-- Note that a connection has ended. -/
def markStopped (roster : Roster) (number : Nat) : Roster :=
  roster.change number ({ · with stopped := true })

/-- Take out a connection that has ended; another that is live by now stays so. -/
def unregister (roster : Roster) (number : Nat) : Roster :=
  let stopped := roster.markStopped number
  match roster.connections[number]? with
  | none => stopped
  | some connection =>
    if roster.live.get? connection.clusterId = some number then
      { stopped with live := stopped.live.erase connection.clusterId }
    else stopped

/-- Stop taking commands; those that wait are lost. -/
def close (roster : Roster) (number : Nat) : Roster :=
  roster.change number ({ · with receiving := false, inbox := [] })

/-- Take the commands that wait for an agent. -/
def drain (roster : Roster) (number : Nat) : List DynamicConfig × Roster :=
  (((roster.connections[number]?).map (·.inbox)).getD [],
    roster.change number ({ · with inbox := [] }))

/-- What becomes of a command to a connection. -/
def deliveryTo (connection : Connection) : Delivery :=
  if connection.ending.isSome || !connection.receiving then .closed
  else if connection.inbox.length < connection.capacity then .queued
  else .full

/-- Send a configuration to the agent of a cluster. -/
def send (roster : Roster) (clusterId : String) (config : DynamicConfig) : Delivery × Roster :=
  match roster.live.get? clusterId with
  | none => (.unconnected, roster)
  | some number =>
    match roster.connections[number]? with
    | none => (.unconnected, roster)
    | some connection =>
      match deliveryTo connection with
      | .queued => (.queued, roster.change number fun c => { c with inbox := c.inbox ++ [config] })
      | delivery => (delivery, roster)

/-- How many connections are live. -/
def size (roster : Roster) : Nat :=
  roster.live.size

end Roster

end Fleet
