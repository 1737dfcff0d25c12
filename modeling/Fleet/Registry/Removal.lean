import Fleet.Registry.Reads
import Fleet.Teardown.Cascade
import Fleet.Teardown.Timeline

/-!
# Removal

A removed cluster is gone at once; what is held for it elsewhere goes later. As soon as the record is
dropped a teardown is submitted, even if the index could not be told.

The one thing that a teardown waits for is its connection. Once that is dealt with its cascade runs to
the end, as it does on a single thread with collaborators that never make anybody wait.
-/

namespace Fleet.Registry

open Calls

/-- Submit the teardown of a dropped record. -/
def submit (job : Job) : Action Unit :=
  modify fun state =>
    let capacity := state.settings.queueCapacity
    { state with
      queue := state.queue.submit capacity job
      agenda := state.agenda.call (state.queue.nextTurn capacity) }

/-- Remove a cluster. Whoever holds the ticket gets the report of the teardown. -/
def remove (scope : Scope) (id : String) (ticket : Option Nat) : Action Unit := do
  ensureWrite scope id
  let cluster ← load id
  dropRecord id
  let unindexed ← (unindexCluster id).attempt
  submit { cluster, ticket }
  noteRegistered
  Action.conclude unindexed

/-- How many teardowns are not finished. -/
def pending : Action Nat := do
  return (← get).queue.pending

/-- Run the cascade of a teardown that has met its connection; the reports come out oldest first. -/
def finish (progress : List (Job × Report) × State) (met : Job × ConnectionEnd) :
    List (Job × Report) × State :=
  let (reports, state) := progress
  let cascade := Cascade.run state.conditions met.1.cluster met.2 state.holdings
  (reports ++ [(met.1, cascade.report)],
    { state with
      holdings := cascade.holdings
      queue := { state.queue with pending := state.queue.pending - 1 }
      tally := state.tally.countCascade (cascade.report.failures.map (·.subsystem)) })

/-- Let all that is under way come to its end: every pending teardown, and then every connection that
was asked to end. -/
def settle (state : State) : List (Job × Report) × State :=
  let timeline :=
    (Timeline.start state.pace state.roster state.queue state.agenda).run
      state.settings.terminationTimeout
  let rested := { state with
    roster := timeline.roster
    agenda := timeline.agenda
    queue := { state.queue with waiting := [], detached := [] } }
  timeline.finished.foldl finish ([], rested)

end Fleet.Registry
