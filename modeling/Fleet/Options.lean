import Fleet.Telemetry

/-!
# Options

The options of the command line, each with its value behind it or joined to it by an equals sign.
-/

namespace Fleet

/-- What the command line asks for. -/
structure Options where
  serviceName : String := "outpost-central"
  /-- Where to export to; it goes before what the environment says. -/
  endpoint : Option String := none
deriving DecidableEq, Repr, Inhabited

namespace Options

/-- Take one option into account; nothing if there is no such option. -/
def set? (options : Options) (option value : String) : Option Options :=
  match option with
  | "--service-name" => some { options with serviceName := value }
  | "--otlp-endpoint" => some { options with endpoint := some value }
  | _ => none

/-- Split an option from the value that is joined to it. -/
def joined? (argument : String) : Option (String × String) :=
  let chars := argument.toList
  let name := chars.takeWhile (· ≠ '=')
  match chars.drop name.length with
  | [] => none
  | _ :: value => some (String.ofList name, String.ofList value)

/-- Read the arguments one after another; on failure, the one that cannot be read. -/
def read : Options → List String → Except String Options
  | options, [] => .ok options
  | options, [argument] =>
    match (joined? argument).bind fun (option, value) => options.set? option value with
    | some options => .ok options
    | none => .error argument
  | options, argument :: value :: rest =>
    match options.set? argument value with
    | some options => read options rest
    | none =>
      match (joined? argument).bind fun (option, value) => options.set? option value with
      | some options => read options (value :: rest)
      | none => .error argument

/-- The telemetry settings for these options in an environment, those of the registry included. -/
def telemetry (options : Options) (env : Environment) (settings : Settings) :
    Except Failure Telemetry := do
  let telemetry ← Telemetry.ofEnvironment options.serviceName env
  return { telemetry.withRegistry settings with endpoint := options.endpoint <|> telemetry.endpoint }

end Options

end Fleet
