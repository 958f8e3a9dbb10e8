/-
# Previews from the command line

A preview routes one query over the tables named on the command line and shows
its execution units.  The environment names the configuration file.  Every
failure has a headline and the errors that led to it; a crash has its message.
-/

import ShardProxy.Config.Load
import ShardProxy.Proxy

namespace ShardProxy.Preview

/-- The variable that names the configuration file. -/
def pathVariable : String := "STRATA_CONFIG"

/-- Why there is no preview. -/
inductive Failure where
  /-- The environment names no configuration file. -/
  | noPath
  /-- The configuration could not be loaded. -/
  | loading (path : String) (cause : ConfigError)
  | proxy (cause : ProxyError)
  deriving Repr, DecidableEq

/-- The headline of a failure. -/
def Failure.headline : Failure → String
  | .noPath => s!"Error: {pathVariable} must name a config file with routing rules"
  | .loading path _ => s!"Error: loading {path}"
  | .proxy cause => s!"Error: {cause.message}"

/-- The errors behind a failure, in words, the nearest first. -/
def Failure.causes : Failure → List String
  | .noPath => ["environment variable not found"]
  | .loading _ (.unreadable path reason) =>
    [(ConfigError.unreadable path reason).message, reason]
  | .loading _ cause => [cause.message]
  | .proxy (.routing cause) => [cause.message]
  | .proxy (.execution cause) => [cause.message]

/-- The lines that tell of a failure; several causes are numbered. -/
def Failure.report (failure : Failure) : List String :=
  failure.headline :: "" :: "Caused by:" ::
    match failure.causes with
    | [cause] => ["    " ++ cause]
    | causes => causes.zipIdx.map fun (cause, n) => s!"    {n}: {cause}"

/-- The execution units of a query over tables, by a proxy that has been started. -/
def unitsOf (tables : List String) :
    Except ProxyError (Proxy × Proxy.State) → Except Failure (List ExecutionUnit)
  | .error e => .error (.proxy e)
  | .ok (proxy, state) => (proxy.preview (.select tables) state).1.mapError .proxy

/-- How a preview exits. -/
abbrev Result := Exit (Except Failure (List ExecutionUnit))

/-- A preview of a query over tables, by a configuration. -/
def runConfig (config : Config) (tables : List String) (dice : Dice) : Result :=
  (Proxy.start (config.name.getD "") (config.maxWorkers.getD 1) config.rules config.schema
    selectAll dice).map (unitsOf tables)

/-- A preview of a query over tables. -/
def run (environment : Environment) (contents : String → Except String String)
    (tables : List String) (dice : Dice) : Result :=
  match environment pathVariable with
  | none => .returned (.error .noPath)
  | some path =>
    match Config.load path (contents path) environment with
    | .error e => .returned (.error (.loading path e))
    | .ok config => runConfig config tables dice

/-- The execution units that a preview shows. -/
def Result.units : Result → List ExecutionUnit
  | .returned (.ok units) => units
  | _ => []

/-- The lines that a preview writes to the error stream. -/
def Result.errorLines : Result → List String
  | .returned (.ok _) => []
  | .returned (.error failure) => failure.report
  | .crashed message => ["", "thread 'main' panicked:", message]

/-- The exit code of a preview. -/
def Result.exitCode : Result → UInt32
  | .returned (.ok _) => 0
  | .returned (.error _) => 1
  | .crashed _ => 101

end ShardProxy.Preview
