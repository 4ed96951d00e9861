import TrafficReplay.CommandLine.Config
import TrafficReplay.Loading.Directory
import TrafficReplay.Replay.Crew

/-!
# The program

The program reads its command line, loads a directory, replays its sessions, and reports.

* `World`: what the program finds around it;
* `Performance`: what it prints, logs, sends and saves;
* `Program.run`: the performance for a command line, and how it ends.
-/

namespace TrafficReplay
open TrafficReplay.Text TrafficReplay.CommandLine

/-- What the program finds around it. The peer has a state of type `ρ`, which starts as `memory`. -/
structure World (ρ : Type := Unit) where
  files : FileTree
  lookup : NameLookup
  peer : Peer ρ
  memory : ρ := by exact default
  clock : Clock
  /-- The readings of the stopwatch. -/
  readings : List Binary64

/-- The totals that are saved. -/
structure Totals where
  stats : ReplayStats.Rounded
  tally : Tally
  deriving Repr

namespace Totals

/-- A floating point number in a saved file. -/
def numberText : Binary64 → String
  | .nan => "NaN"
  | .infinity s => Binary64.signText s ++ "Infinity"
  | x => x.shortest

/-- The totals as names and values, in the order in which they are saved. -/
def entries (t : Totals) : List (String × String) :=
  [("transactions", toString t.stats.transactions),
   ("sessions", toString t.stats.sessions),
   ("reuse", numberText t.stats.reuse),
   ("elapsed_ms", numberText t.stats.elapsed),
   ("throughput_per_ms", numberText t.stats.throughput),
   ("repetitions", toString t.stats.repetitions),
   ("aborted", toString t.stats.aborted),
   ("sessions_succeeded", toString t.tally.succeeded),
   ("sessions_failed", toString t.tally.failed),
   ("sessions_skipped", toString t.tally.skipped),
   ("transactions_failed", toString t.tally.transactionsFailed)]

/-- The text of the saved file: an object with an entry on each line. -/
def render (t : Totals) : String :=
  "\x7b\n" ++ join ",\n" (t.entries.map fun e => "  \"" ++ e.1 ++ "\": " ++ e.2) ++ "\n\x7d"

end Totals

/-- What the program does to the world. -/
structure Performance where
  stdout : String
  stderr : String
  log : List LogRecord
  calls : List Call
  /-- The sleeps in seconds. -/
  sleeps : List Binary64
  saved : Option (FilePath × Totals)

/-- A performance that does nothing. -/
def Performance.nothing : Performance := ⟨"", "", [], [], [], none⟩

/-- What breaks the program off. -/
inductive ProgramFault
  | state (fault : Fault)
  | setup (fault : SetupFault)
  | dispatch (fault : DispatchFault)
  | output (fault : FileFault)
  deriving DecidableEq, Repr

/-- Steps of the program. -/
abbrev OnProgram := Step Performance ProgramFault

namespace Program

variable {ρ : Type}

/-- The channel of the program's log. -/
def channel : String := "proxyreplay.client"

/-- Print lines. -/
def print (lines : List String) : OnProgram Unit :=
  modify fun p => { p with stdout := p.stdout ++ String.join (lines.map fun l => l ++ "\n") }

/-- Log records. -/
def log (records : List LogRecord) : OnProgram Unit :=
  modify fun p => { p with log := p.log ++ records }

/-- Log information. -/
def inform (text : String) : OnProgram Unit := log [⟨channel, .info, text⟩]

/-- The result of a computation. -/
def orBreak {α ε : Type} (fault : ε → ProgramFault) (x : Except ε α) : OnProgram α :=
  Step.update fun p => (x.map fun a => (p, a)).mapError fault

/-! ### Loading -/

/-- Load the directory of a configuration; `none` if there is nothing to replay. -/
def load (files : FileTree) (config : ReplayConfig) : OnProgram (Option RunState) := do
  inform ("Loading directory \"" ++ config.replayPath ++ "\".")
  let loader := (Handler.recording config.settings).loader files
  let (loaded, run) ← orBreak ProgramFault.state
    (loadPath loader files (.ofText config.replayPath) .empty)
  log (loaded.log ++ loaded.report.logged channel)
  return if loaded.report.ok then some run else none

/-! ### Replaying -/

/-- What comes of a replay. -/
structure Replayed where
  stats : ReplayStats
  tally : Tally
  /-- Whether all sessions were handed out. -/
  complete : Bool

/-- Prepare the sessions of a run and let nothing more be loaded. -/
def prepare (run : RunState) : OnProgram (BatchInfo × RunState) :=
  orBreak ProgramFault.state <|
    let step : OnRun BatchInfo := do
      let info ← RunState.prepare
      RunState.freeze
      return info
    match step.runOn run with
    | (.ok info, run) => .ok (info, run)
    | (.error f, _) => .error f

/-- The multiplier for the rate of a configuration. -/
def multiplier (config : ReplayConfig) (info : BatchInfo) : OnProgram Binary64 := do
  let m ← orBreak (fun f => .dispatch (.arithmetic f))
    (rateMultiplier info.transactionCount info.span (some (.whole config.rate)))
  if config.rate ≠ 0 then
    inform ("Rate multiplier: " ++ m.shortest ++ ", transaction count: " ++
      toString info.transactionCount ++ ", time delta: " ++ toString info.span ++
      ", first time " ++ toString info.offset)
  return m

/-- Dispatch the sessions of a run to a crew. -/
def dispatchAll (world : World ρ) (config : ReplayConfig) (run : RunState) (m : Binary64) :
    OnProgram Replayed := do
  let _ ← orBreak ProgramFault.setup (Pool.make config.threads true)
  log [Pool.startNote config.threads.toNat]
  let rotation ← orBreak ProgramFault.setup
    (Rotation.ofLists config.httpTargets config.httpsTargets)
  let plan ← orBreak ProgramFault.setup
    (Plan.make config.repetitions config.sleepLimit config.workerTimeout)
  let crew := Crew.ofSize config.threads.toNat world.clock world.readings world.memory
  let context := run.context config.settings world.peer
  let (r, d) := (replay (Crew.surroundings context) plan (.real m) run.sessions).runOn
    (.start crew rotation)
  modify fun p =>
    { p with
      log := p.log ++ d.outside.log
      calls := p.calls ++ d.outside.calls
      sleeps := p.sleeps ++ d.outside.sleeps }
  orBreak ProgramFault.dispatch r
  log (d.report.logged channel)
  return ⟨d.stats, d.outside.tally, d.report.ok⟩

/-- Replay the sessions of a run. -/
def replayAll (world : World ρ) (config : ReplayConfig) (run : RunState) : OnProgram Replayed := do
  let (info, run) ← prepare run
  inform ("Parsed " ++ toString info.transactionCount ++ " transactions.")
  let m ← multiplier config info
  dispatchAll world config run m

/-! ### Reporting -/

/-- Tell what is going to be done. -/
def announce (config : ReplayConfig) : OnProgram Unit :=
  print
    ["📡 ProxyReplay Client",
     "   Replay path: " ++ config.replayPath,
     "   HTTP targets: " ++ join ", " (config.httpTargets.map Endpoint.netloc),
     "   HTTPS targets: " ++ join ", " (config.httpsTargets.map Endpoint.netloc),
     "   Mode: " ++ config.settings.mode.name ++
       (if config.settings.strict then " (strict)" else ""),
     ""]

/-- Tell what was done. -/
def summarize (r : Replayed) : OnProgram Unit := do
  let summary ← orBreak (fun f => .dispatch (.arithmetic f)) r.stats.summary
  print
    ["",
     "📊 Replay Summary:",
     "   " ++ summary,
     "   Sessions succeeded: " ++ toString r.tally.succeeded,
     "   Sessions failed: " ++ toString r.tally.failed,
     "   Sessions skipped: " ++ toString r.tally.skipped]

/-- Save the totals to a file. -/
def save (files : FileTree) (path : String) (r : Replayed) : OnProgram Unit := do
  orBreak ProgramFault.output (files.canWrite path)
  let stats ← orBreak (fun f => .dispatch (.arithmetic f)) r.stats.rounded
  modify fun s => { s with saved := some (FilePath.ofText path, ⟨stats, r.tally⟩) }
  print ["✅ Saved replay results to " ++ path]

/-! ### The whole program -/

/-- Load, replay and report; the answer is the exit status. -/
def perform (world : World ρ) (config : ReplayConfig) (output : Option String) : OnProgram Nat := do
  announce config
  match ← load world.files config with
  | none => return 1
  | some run =>
    let r ← replayAll world config run
    summarize r
    match output.filter fun path => !path.isEmpty with
    | some path => save world.files path r
    | none => pure ()
    return if r.complete then 0 else 1

/-- Tell that options are refused. -/
def refuse (message : String) : OnProgram Nat := do
  log [⟨channel, .error, message⟩]
  modify fun p => { p with stderr := p.stderr ++ "❌ " ++ message ++ "\n" }
  return 1

/-- The command `run`. -/
def runCommand (world : World ρ) (verbosity : String) (o : RunOptions) : OnProgram Nat :=
  match o.config world.lookup verbosity with
  | .error f => refuse f.message
  | .ok config => perform world config o.output

/-- What the program does once its command line is read. -/
def obey (world : World ρ) (o : Options) : OnProgram Nat :=
  match o.run with
  | none => do
    print [usage programName]
    return 1
  | some r => runCommand world o.verbosity r

/-- The end of the program when its command line asks for no more, or is refused. -/
def stop (s : Stop) : OnProgram Nat := do
  modify fun p => { p with stdout := p.stdout ++ s.stdout, stderr := p.stderr ++ s.stderr }
  return s.status

/-- Let only records be logged that a verbosity lets through. -/
def limited (verbosity : String) (p : Performance) : Performance :=
  match verbosity? verbosity with
  | none => p
  | some threshold => { p with log := passing threshold p.log }

/-- The performance of the program for a command line, and the exit status it ends with or what
breaks it off. -/
def run (world : World ρ) (arguments : List String) : Except ProgramFault Nat × Performance :=
  match Options.read arguments with
  | .error s => (stop s).runOn .nothing
  | .ok o =>
    let (r, p) := (obey world o).runOn .nothing
    (r, limited o.verbosity p)

end Program

end TrafficReplay
