import TrafficReplay.CommandLine.Options
import TrafficReplay.Replay.Endpoint

/-!
# The configuration of a replay

What the options of the command `run` ask for, with the targets looked up.
-/

namespace TrafficReplay

/-- All that a replay depends on. -/
structure ReplayConfig where
  replayPath : String
  loadThreads : Int
  httpTargets : List Endpoint
  httpsTargets : List Endpoint
  settings : Settings
  /-- The wanted transactions of a second; zero for as fast as possible. -/
  rate : Int
  repetitions : Int
  sleepLimit : Int
  threads : Int
  workerTimeout : Option Binary64
  verbosity : String
  deriving Repr

/-- Why options do not make a configuration. -/
inductive ConfigFault
  | notEnoughOperands
  | endpoint (fault : EndpointFault)
  deriving DecidableEq, Repr

/-- What the operands of the command `run` are. -/
def operandsHelp : String :=
  "Arguments:\n" ++
  "  <dir>:            Directory containing replay files.\n" ++
  "  <upstream http>:  hostname and port for http requests. Can be a comma separated list.\n" ++
  "  <upstream https>: hostname and port for https requests. Can be a comma separated list."

/-- The wording of a fault. -/
def ConfigFault.message : ConfigFault → String
  | .notEnoughOperands => "Not enough arguments for \"run\" command.\n" ++ operandsHelp
  | .endpoint f => f.message

namespace CommandLine

/-- The settings that options ask for. -/
def RunOptions.settings (o : RunOptions) : Settings where
  mode := if o.noProxy then .noProxy else .client
  strict := o.strict
  keys := o.keys.eraseDups.map Text.ofString
  keyFormat := o.keyFormat
  timeout := o.timeout
  verifyTls := o.verifyTls

/-- The configuration that options ask for. -/
def RunOptions.config (o : RunOptions) (lookup : NameLookup) (verbosity : String) :
    Except ConfigFault ReplayConfig :=
  match o.operands with
  | replayPath :: http :: https :: _ => do
    let httpTargets ← (resolve lookup http).mapError ConfigFault.endpoint
    let httpsTargets ← (resolve lookup https).mapError ConfigFault.endpoint
    return {
      replayPath
      loadThreads := o.loadThreads
      httpTargets
      httpsTargets
      settings := o.settings
      rate := o.rate
      repetitions := o.repetitions
      sleepLimit := o.sleepLimit
      threads := o.threads
      workerTimeout := o.workerTimeout
      verbosity }
  | _ => .error .notEnoughOperands

end CommandLine

end TrafficReplay
