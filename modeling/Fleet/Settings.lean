import Fleet.Failure
import Fleet.Instant
import Fleet.Table
import Fleet.Text.Blank
import Fleet.Text.Decimal

/-!
# Settings

What can be tuned about the registry, and how it is read from the environment: each variable that is
set holds a number of sixty-four bits, blanks around it aside.
-/

namespace Fleet

open Fleet.Text

/-- The variables of the environment that are set. -/
abbrev Environment := Table String

/-- What can be tuned about the registry. -/
structure Settings where
  /-- How long after its last contact an agent is protected against takeover. -/
  moveGrace : Duration := .ofSeconds 180
  /-- How long a teardown waits for a connection to end. -/
  terminationTimeout : Duration := .ofSeconds 5
  /-- The timeout of the admission controller where none is configured, in seconds. -/
  admissionTimeout : Int32 := 3
  /-- How many teardowns wait at most. -/
  queueCapacity : Nat := 256
deriving DecidableEq

namespace Settings

instance : Inhabited Settings := ⟨{}⟩

/-- The variable for the grace period, in seconds. -/
def graceVariable : String := "OUTPOST_CLUSTER_MOVE_GRACE_SECS"

/-- The variable for the termination timeout, in seconds. -/
def terminationVariable : String := "OUTPOST_CONNECTION_TERMINATION_TIMEOUT_SECS"

/-- The variable for the capacity of the teardown queue. -/
def capacityVariable : String := "OUTPOST_CASCADE_QUEUE_CAPACITY"

/-- The variables, in the order in which they are looked at. -/
def variableNames : List String := [graceVariable, terminationVariable, capacityVariable]

/-- The number that a variable holds, if it is set. -/
def readVariable (env : Environment) (variableName : String) : Except Failure (Option Nat) :=
  match env.get? variableName with
  | none => .ok none
  | some raw =>
    match readWord? (trim raw) with
    | none => .error (.badSetting variableName raw)
    | some n => .ok (some n)

/-- The settings that an environment asks for; what it leaves open has its default. -/
def ofEnvironment (env : Environment) : Except Failure Settings := do
  let grace ← readVariable env graceVariable
  let termination ← readVariable env terminationVariable
  let capacity ← readVariable env capacityVariable
  if capacity = some 0 then throw (.noQueueRoom capacityVariable)
  let base : Settings := {}
  return { base with
    moveGrace := (grace.map Duration.ofSeconds).getD base.moveGrace
    terminationTimeout := (termination.map Duration.ofSeconds).getD base.terminationTimeout
    queueCapacity := capacity.getD base.queueCapacity }

end Settings

end Fleet
