import Fleet.Roster

/-!
# The agenda

Who goes on next while teardowns and connections come to their end: first come, first served. A lane
of teardowns comes when there is something to take down, an agent when its connection has registered
and again when that is asked to end. Nobody is on the agenda twice.
-/

namespace Fleet

/-- Somebody who goes on when the turn comes. -/
inductive Turn where
  /-- A lane of teardowns, by position: the queue is the first lane, and each teardown that goes on by
  itself is one more. -/
  | lane (position : Nat)
  /-- An agent that looks whether it is to end its connection, by the number of the connection. -/
  | agent (number : Nat)
  /-- An agent that has taken its time to end its connection. -/
  | departure (number : Nat)
deriving DecidableEq, Repr

/-- The turns to be taken, the next one in front. -/
abbrev Agenda := List Turn

namespace Agenda

/-- The agenda at the start: the queue is to look what there is to do. -/
def opening : Agenda := [.lane 0]

/-- Ask for a turn, unless it comes anyway. -/
def call (agenda : Agenda) (turn : Turn) : Agenda :=
  if turn ∈ agenda then agenda else agenda ++ [turn]

/-- Call the agent whose connection is about to be asked to end. It comes if it ends connections at
all, and only the first time that it is asked. -/
def callAgent (agenda : Agenda) (roster : Roster) (number : Nat) : Agenda :=
  match roster.connections[number]? with
  | none => agenda
  | some connection =>
    if connection.stopDelay.isSome && connection.ending.isNone then agenda.call (.agent number)
    else agenda

end Agenda

end Fleet
