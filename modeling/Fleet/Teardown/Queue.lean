import Fleet.Cluster
import Fleet.Teardown.Agenda

/-!
# The teardown queue

Teardowns wait in a queue of bounded length. One that finds the queue full does not wait for the
others: it goes on by itself.
-/

namespace Fleet

/-- A teardown to be done. -/
structure Job where
  /-- The record as it was stored. -/
  cluster : Cluster
  /-- The number under which the report is waited for, if it is. -/
  ticket : Option Nat := none
deriving DecidableEq, Inhabited

/-- The teardowns that are not finished. -/
structure TeardownQueue where
  /-- Those that are done one after another. -/
  waiting : List Job := []
  /-- Those that go on by themselves. -/
  detached : List Job := []
  /-- How many were submitted and not finished. -/
  pending : Nat := 0
deriving DecidableEq, Inhabited

namespace TeardownQueue

/-- Whether one more teardown can wait. There is always room for one, even with a capacity of zero. -/
def hasRoom (queue : TeardownQueue) (capacity : Nat) : Bool :=
  queue.waiting.length < max capacity 1

/-- Submit a teardown. -/
def submit (queue : TeardownQueue) (capacity : Nat) (job : Job) : TeardownQueue :=
  if queue.hasRoom capacity then
    { queue with waiting := queue.waiting ++ [job], pending := queue.pending + 1 }
  else
    { queue with detached := queue.detached ++ [job], pending := queue.pending + 1 }

/-- Whose turn it is to do the teardown that is submitted next. -/
def nextTurn (queue : TeardownQueue) (capacity : Nat) : Turn :=
  if queue.hasRoom capacity then .lane 0 else .lane (queue.detached.length + 1)

end TeardownQueue

end Fleet
