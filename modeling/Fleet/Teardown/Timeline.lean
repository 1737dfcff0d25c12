import Fleet.Runtime
import Fleet.Teardown.Agenda
import Fleet.Teardown.Queue
import Fleet.Teardown.Report

/-!
# The timeline of teardowns

How each pending teardown meets its connection, and so in which order the cascades run. The queue is
one lane of teardowns, and each teardown that goes on by itself is a lane of its own. Lanes and agents
take turns. Whoever has to wait sets an alarm; time passes only when the agenda is empty, and then up
to the earliest alarm. Alarms for one time go off in the order in which they were set. A long turn is
broken off; who was broken off gets the next turn at the end of the round, behind all who have one by
then. A round ends after so many turns, or when nobody has one. How long turns and rounds are is left
open.
-/

namespace Fleet

/-- What the teardown of a lane waits for. -/
structure Wait where
  /-- The number of the connection that is to end. -/
  number : Nat
  /-- When the teardown stops waiting. -/
  limit : Nat
  /-- Whether the alarm for that time is set. -/
  isArmed : Bool
deriving DecidableEq

/-- How many steps a turn leads to at most, if there are so many lanes: a departure calls every lane,
and an agent sets an alarm for its departure. -/
def Turn.reach (lanes : Nat) : Turn → Nat
  | .lane _ => 1
  | .departure _ => lanes + 1
  | .agent _ => lanes + 3

/-- Teardowns that go one after another. -/
structure Lane where
  /-- What the first teardown waits for, if it waits. -/
  wait : Option Wait := none
  /-- The teardowns that are not done. -/
  jobs : List Job := []

namespace Lane

/-- How many steps the teardowns of a lane lead to at most, beside its turns and alarms, if there are so
many lanes. One that has not come to its connection yet may call an agent, break off the turn and set an
alarm; one that came to it as the turn was over only sets its alarm. -/
def reach (lanes : Nat) (lane : Lane) : Nat :=
  match lane.wait with
  | none => lane.jobs.length * (lanes + 6)
  | some wait => (lane.jobs.length - 1) * (lanes + 6) + if wait.isArmed then 0 else 2

end Lane

/-- A turn at a later time. -/
structure Alarm where
  time : Nat
  turn : Turn

/-- The teardowns on their way. -/
structure Timeline where
  pace : Pace
  roster : Roster
  agenda : Agenda
  lanes : List Lane
  /-- The time since the start, in nanoseconds. -/
  now : Nat := 0
  /-- How many turns the present round has had. -/
  taken : Nat := 0
  /-- The turns that were broken off in the present round. -/
  deferred : Agenda := []
  /-- The alarms in the order in which they were set. -/
  alarms : List Alarm := []
  /-- The teardowns whose connection is dealt with, oldest first. -/
  finished : List (Job × ConnectionEnd) := []

namespace Timeline

/-- The reason given to an agent whose cluster is removed. -/
def removalReason : String := "cluster was deleted"

/-- The start of the teardowns of a queue. -/
def start (pace : Pace) (roster : Roster) (queue : TeardownQueue) (agenda : Agenda) : Timeline where
  pace
  roster
  agenda
  lanes := { jobs := queue.waiting } :: queue.detached.map fun job => { jobs := [job] }

/-- Whether a connection has ended. -/
def hasStopped (timeline : Timeline) (number : Nat) : Bool :=
  timeline.roster.connections[number]?.any (·.stopped)

/-- Set an alarm. -/
def setAlarm (timeline : Timeline) (time : Nat) (turn : Turn) : Timeline :=
  { timeline with alarms := timeline.alarms ++ [⟨time, turn⟩] }

/-- Give up the alarms of a turn. -/
def dropAlarms (timeline : Timeline) (turn : Turn) : Timeline :=
  { timeline with alarms := timeline.alarms.filter (·.turn ≠ turn) }

/-- Put a lane in its place. -/
def setLane (timeline : Timeline) (position : Nat) (lane : Lane) : Timeline :=
  { timeline with lanes := timeline.lanes.set position lane }

/-- Note how the connection of a teardown ended. -/
def finish (timeline : Timeline) (job : Job) (connectionEnd : ConnectionEnd) : Timeline :=
  { timeline with finished := timeline.finished ++ [(job, connectionEnd)] }

/-- Ask a connection to end, because its cluster is removed. -/
def terminate (timeline : Timeline) (number : Nat) : Timeline :=
  { timeline with
    roster := timeline.roster.terminate number removalReason
    agenda := timeline.agenda.callAgent timeline.roster number }

/-- Break off the turn of a lane. -/
def defer (timeline : Timeline) (position : Nat) (lane : Lane) : Timeline :=
  { timeline.setLane position lane with deferred := timeline.deferred ++ [.lane position] }

/-- Let the first teardown of a lane wait, with an alarm for when that is over. -/
def await (timeline : Timeline) (position : Nat) (wait : Wait) (jobs : List Job) : Timeline :=
  if wait.isArmed then timeline
  else
    (timeline.setLane position ⟨some { wait with isArmed := true }, jobs⟩).setAlarm wait.limit
      (.lane position)

/-- Do the teardowns of a lane one after another, until one has to wait for its connection or the turn
has become too long. -/
def serve (timeout : Duration) (position : Nat) : Nat → List Job → Timeline → Timeline
  | _, [], timeline => timeline.setLane position {}
  | 0, job :: rest, timeline => timeline.defer position { jobs := job :: rest }
  | left + 1, job :: rest, timeline =>
    match timeline.roster.live.get? job.cluster.id with
    | none => serve timeout position left rest (timeline.finish job .notConnected)
    | some number =>
      let asked := timeline.terminate number
      let wait : Wait := ⟨number, asked.now + timeout.nanos, false⟩
      match left with
      | 0 => asked.defer position { wait, jobs := job :: rest }
      | left + 1 =>
        if asked.hasStopped number then serve timeout position left rest (asked.finish job .stopped)
        else if timeout.nanos = 0 then
          serve timeout position left rest (asked.finish job .timedOut)
        else asked.await position wait (job :: rest)

/-- The turn of a lane: so many times it takes up a teardown, or is through with one that has to do with
a connection. A teardown that waits is done if its connection has ended or its time is over; the first
counts if both hold. -/
def resume (timeout : Duration) (timeline : Timeline) (position : Nat) : Timeline :=
  match timeline.lanes[position]? with
  | none => timeline
  | some lane =>
    match lane.wait, lane.jobs with
    | some wait, job :: rest =>
      if timeline.hasStopped wait.number then
        serve timeout position (timeline.pace.turnLength - 1) rest
          ((timeline.dropAlarms (.lane position)).finish job .stopped)
      else if wait.limit ≤ timeline.now then
        serve timeout position (timeline.pace.turnLength - 1) rest (timeline.finish job .timedOut)
      else timeline.await position wait (job :: rest)
    | _, jobs => serve timeout position timeline.pace.turnLength jobs timeline

/-- Whether a turn is that of a lane that waits for a connection. -/
def waitsFor (timeline : Timeline) (number : Nat) : Turn → Bool
  | .lane position =>
    (timeline.lanes[position]?.bind (·.wait)).any (·.number = number)
  | _ => false

/-- A connection ends, and the lanes that wait for it are called. -/
def depart (timeline : Timeline) (number : Nat) : Timeline :=
  { timeline with
    roster := timeline.roster.unregister number
    agenda := ((timeline.alarms.map (·.turn)).filter (timeline.waitsFor number)).foldl
      Agenda.call timeline.agenda }

/-- The turn of an agent that looks whether it is to end its connection: then it takes its time. -/
def heed (timeline : Timeline) (number : Nat) : Timeline :=
  match timeline.roster.connections[number]? with
  | none => timeline
  | some connection =>
    match connection.ending, connection.stopDelay with
    | some _, some delay =>
      if delay.nanos = 0 then timeline.depart number
      else timeline.setAlarm (timeline.now + delay.nanos) (.departure number)
    | _, _ => timeline

/-- Let somebody go on. -/
def take (timeout : Duration) (timeline : Timeline) : Turn → Timeline
  | .lane position => timeline.resume timeout position
  | .agent number => timeline.heed number
  | .departure number => timeline.depart number

/-- Let time pass up to the earliest alarm; none if there is no alarm. -/
def elapse? (timeline : Timeline) : Option Timeline :=
  (timeline.alarms.map (·.time)).min?.map fun time =>
    let (due, later) := timeline.alarms.partition (·.time = time)
    { timeline with
      now := time
      alarms := later
      agenda := (due.map (·.turn)).foldl Agenda.call timeline.agenda }

/-- Begin a new round if this one is over: whoever was broken off in it comes behind all others. -/
def nextRound (timeline : Timeline) : Timeline :=
  if timeline.agenda.isEmpty || timeline.taken = timeline.pace.roundLength then
    { timeline with agenda := timeline.agenda ++ timeline.deferred, deferred := [], taken := 0 }
  else timeline

/-- The next step, none once all is quiet. -/
def step? (timeout : Duration) (timeline : Timeline) : Option Timeline :=
  let timeline := timeline.nextRound
  match timeline.agenda with
  | turn :: rest =>
    some ({ timeline with agenda := rest, taken := timeline.taken + 1 }.take timeout turn)
  | [] => timeline.elapse?

/-! ## Coming to the end -/

/-- The sum of what each element counts. -/
def total {α : Type} (count : α → Nat) (elements : List α) : Nat :=
  elements.foldr (fun element sum => count element + sum) 0

/-- How many steps are left at most. -/
def stepsLeft (timeline : Timeline) : Nat :=
  let lanes := timeline.lanes.length
  total (Turn.reach lanes) timeline.agenda
    + total (Turn.reach lanes) timeline.deferred
    + total (fun alarm => Turn.reach lanes alarm.turn + 1) timeline.alarms
    + total (Lane.reach lanes) timeline.lanes

/-- Take so many steps, or fewer if all is quiet before. -/
def steps (timeout : Duration) : Nat → Timeline → Timeline
  | 0, timeline => timeline
  | n + 1, timeline =>
    match timeline.step? timeout with
    | none => timeline
    | some next => steps timeout n next

/-- Whether a turn leads to nothing: a lane without teardowns, or an agent that is not to end its
connection. -/
def isIdle (timeline : Timeline) : Turn → Bool
  | .lane position => timeline.lanes[position]?.all (·.jobs.isEmpty)
  | .agent number => timeline.roster.connections[number]?.all (·.ending.isNone)
  | .departure _ => false

/-- Go on until every teardown has met its connection, and every connection that was asked to end and
ever does has ended. Nobody goes on as long as that would lead to nothing. -/
def run (timeout : Duration) (timeline : Timeline) : Timeline :=
  if timeline.agenda.all timeline.isIdle then timeline
  else timeline.steps timeout timeline.stepsLeft

end Timeline

end Fleet
