import Fleet.Options
import Fleet.Registry.Writes

/-!
# The command line

Starts a registry with nothing stored yet and keeps it until the input ends.
-/

namespace Fleet

/-- The variables that settings and telemetry are read from. -/
def consultedVariables : List String := Settings.variableNames ++ [
  Telemetry.levelVariable, Telemetry.endpointVariable, Telemetry.instanceVariable]

/-- The part of the environment that settings and telemetry are read from. -/
def readEnvironment : IO Environment := do
  let values ← consultedVariables.mapM fun name => do
    return (← IO.getEnv name).map (name, ·)
  return .ofList (values.filterMap id)

/-- The registry that options and environment ask for, loaded, and how it logs. -/
def start (options : Options) (env : Environment) : Except Failure (State × Telemetry) := do
  let settings ← Settings.ofEnvironment env
  let telemetry ← options.telemetry env settings
  match Registry.rebuild { settings } with
  | .ok () state => return (state, telemetry)
  | .error failure _ => throw failure

/-- Take lines from the input until it ends. -/
partial def waitForEnd (input : IO.FS.Stream) : IO Unit := do
  unless (← input.getLine).isEmpty do waitForEnd input

end Fleet

open Fleet in
/-- Start a registry and keep it until the input ends. -/
def main (arguments : List String) : IO UInt32 := do
  match Options.read {} arguments with
  | .error argument =>
    IO.eprintln ("error: unexpected argument '" ++ argument ++ "' found")
    return 2
  | .ok options =>
    match start options (← readEnvironment) with
    | .error failure =>
      IO.eprintln ("Error: " ++ failure.message)
      return 1
    | .ok (state, telemetry) =>
      IO.eprintln ("Starting cluster registry [" ++ telemetry.directives ++ "]")
      waitForEnd (← IO.getStdin)
      IO.eprintln ("Shutting down, pending: " ++ toString state.queue.pending)
      return 0
