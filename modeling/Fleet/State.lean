import Fleet.Access
import Fleet.Cluster
import Fleet.Directory
import Fleet.Holdings
import Fleet.Roster
import Fleet.Runtime
import Fleet.Settings
import Fleet.Tally
import Fleet.Teardown.Queue

/-!
# The state of the control plane

Everything that calls to the registry read and change: the stored records, what is derived from them,
what other subsystems hold, and the pending teardowns. A call that fails keeps what it has done by
then, so its state is carried along with a failure as with an answer.
-/

namespace Fleet

/-- The whole state. -/
structure State extends Runtime where
  settings : Settings := {}
  now : Instant := ⟨0, false⟩
  /-- Which calls to collaborators are out of order. -/
  conditions : Conditions := {}
  grants : Grants := .empty
  /-- The stored records, by id. -/
  clusters : Table Cluster := .empty
  /-- The records as they were indexed for searches, by id. -/
  index : Table Cluster := .empty
  /-- The names of the stored records. -/
  directory : Directory := .empty
  /-- The clusters that have a flow store. -/
  flows : Table Unit := .empty
  holdings : Holdings := {}
  roster : Roster := {}
  queue : TeardownQueue := {}
  /-- Who goes on first when things come to their end. -/
  agenda : Agenda := .opening
  tally : Tally := {}
  /-- How many ids were given out. -/
  issued : Nat := 0

instance : Inhabited State := ⟨{}⟩

/-- The id that is given out next. -/
def State.nextId (state : State) : String :=
  state.ids.idOf (state.issued + 1)

/-- A call: it answers or fails, and leaves a state either way. -/
abbrev Action := EStateM Failure State

namespace Action

/-- Make a call and take its failure as an answer. -/
def attempt {α : Type} (action : Action α) : Action (Except Failure α) := fun state =>
  match action state with
  | .ok answer after => .ok (.ok answer) after
  | .error failure after => .ok (.error failure) after

/-- The answer or the failure that was found elsewhere. -/
def conclude {α : Type} : Except Failure α → Action α
  | .ok answer => pure answer
  | .error failure => throw failure

end Action

end Fleet
