import TrafficReplay.CommandLine.Grammar
import TrafficReplay.Logging
import TrafficReplay.Number.Reading
import TrafficReplay.Traffic.Settings

/-!
# The options of the program

The program has one command, `run`, which replays a directory.

* `RunOptions`, `runGrammar`: the options of the command;
* `Options`, `Options.read`: the options of the program.
-/

namespace TrafficReplay.CommandLine
open TrafficReplay.Text

/-! ### Kinds of options -/

section

variable {σ α : Type}

/-- An option without arguments. -/
def Switch.flag (names : List String) (set : σ → σ) : Switch σ where
  names := names
  arity := .flag
  act _ v := .ok (set v)

/-- An option that stops the reading. -/
def Switch.stopping (names : List String) (stop : Stop) : Switch σ where
  names := names
  arity := .flag
  act _ _ := .error stop

/-- An option with one argument, which a program reads. -/
def Switch.reading (program : String) (names : List String)
    (read : String → String → Except ArgumentFault α) (set : α → σ → σ) : Switch σ where
  names := names
  arity := .single
  act arguments v :=
    match arguments with
    | [a] => do return set (← refusing program (read (join "/" names) a)) v
    | _ => .ok v

/-- An option with one argument, taken as it stands. -/
def Switch.text (names : List String) (set : String → σ → σ) : Switch σ where
  names := names
  arity := .single
  act arguments v :=
    match arguments with
    | [a] => .ok (set a v)
    | _ => .ok v

/-- An option with some arguments, taken as they stand. -/
def Switch.texts (names : List String) (set : List String → σ → σ) : Switch σ where
  names := names
  arity := .several
  act arguments v := .ok (set arguments v)

end

/-- Read a whole number that is not negative. -/
def readNonNegative (option text : String) : Except ArgumentFault Int :=
  match readInt text.toList with
  | .error _ => .error (.invalidValue option "_non_negative_int" text)
  | .ok n => if n < 0 then .error (.negative option n) else .ok n

/-- Read a positive whole number. -/
def readPositive (option text : String) : Except ArgumentFault Int :=
  match readInt text.toList with
  | .error _ => .error (.invalidValue option "_positive_int" text)
  | .ok n => if n < 1 then .error (.notPositive option n) else .ok n

/-- Read a floating point number. -/
def readReal (option text : String) : Except ArgumentFault Binary64 :=
  match Binary64.read? text.toList with
  | none => .error (.invalidValue option "float" text)
  | some x => .ok x

/-- Read one of some words. -/
def readChoice (choices : List String) (option text : String) : Except ArgumentFault String :=
  if choices.contains text then .ok text else .error (.invalidChoice option text choices)

/-! ### The command `run` -/

/-- What the command `run` is given. -/
structure RunOptions where
  /-- The directory and the two lists of targets; what follows them does not count. -/
  operands : List String
  noProxy : Bool
  strict : Bool
  keys : List String
  keyFormat : Text
  /-- The wanted transactions of a second; zero for as fast as possible. -/
  rate : Int
  repetitions : Int
  /-- The longest sleep, in microseconds. -/
  sleepLimit : Int
  threads : Int
  loadThreads : Int
  /-- How long to wait for a worker, in seconds. -/
  workerTimeout : Option Binary64
  /-- How long a response may take, in seconds. -/
  timeout : Binary64
  verifyTls : Bool
  /-- The file for the totals. -/
  output : Option String
  deriving Repr

/-- What the command `run` does without options. -/
def RunOptions.default : RunOptions where
  operands := []
  noProxy := false
  strict := false
  keys := []
  keyFormat := Settings.default.keyFormat
  rate := 0
  repetitions := 1
  sleepLimit := 500000
  threads := 50
  loadThreads := 10
  workerTimeout := none
  timeout := tenSeconds
  verifyTls := false
  output := none

/-- The name of the program. -/
def programName : String := "proxyreplay-client"

/-- The version of the program. -/
def versionText : String := programName ++ " 1.0.0"

/-- The name of the command. -/
def runName : String := "run"

/-- The name of the program with the command. -/
def runProgram : String := programName ++ " " ++ runName

/-- The options of the command `run`. -/
def runSwitches : List (Switch RunOptions) :=
  [.stopping ["-h", "--help"] (.help runProgram),
   .flag ["--no-proxy"] fun o => { o with noProxy := true },
   .flag ["-s", "--strict"] fun o => { o with strict := true },
   .texts ["-k", "--keys"] fun keys o => { o with keys },
   .text ["--format"] fun keyFormat o => { o with keyFormat },
   .reading runProgram ["--rate"] readNonNegative fun rate o => { o with rate },
   .reading runProgram ["--repeat"] readPositive fun n o => { o with repetitions := n },
   .reading runProgram ["--sleep-limit"] readPositive fun sleepLimit o => { o with sleepLimit },
   .reading runProgram ["--threads"] readPositive fun threads o => { o with threads },
   .reading runProgram ["--load-threads"] readPositive fun n o => { o with loadThreads := n },
   .reading runProgram ["--worker-timeout"] readReal fun x o => { o with workerTimeout := some x },
   .reading runProgram ["--timeout"] readReal fun timeout o => { o with timeout },
   .flag ["--verify-tls"] fun o => { o with verifyTls := true },
   .text ["-o", "--output"] fun path o => { o with output := some path }]

/-- The command line of the command `run`. -/
def runGrammar : Grammar RunOptions where
  program := runProgram
  switches := runSwitches
  form := .row
  act operands o := .ok { o with operands }

/-! ### The program -/

/-- What the program is given. -/
structure Options where
  verbosity : String
  run : Option RunOptions
  /-- The arguments that the command leaves over. -/
  extras : List String
  deriving Repr

/-- What the program does without options. -/
def Options.default : Options := ⟨"info", none, []⟩

/-- Read a command with its arguments. -/
def readCommand (arguments : List String) (o : Options) : Except Stop Options :=
  match arguments with
  | [] => .ok o
  | name :: arguments => do
    if name ≠ runName then
      throw (.refused programName (.invalidChoice "command" name [runName]))
    let (run, extras) ← runGrammar.read .default arguments
    return { o with run := some run, extras }

/-- The command line of the program. -/
def programGrammar : Grammar Options where
  program := programName
  switches :=
    [.stopping ["-h", "--help"] (.help programName),
     .reading programName ["--verbose"] (readChoice (verbosities.map Prod.fst))
       fun verbosity o => { o with verbosity },
     .stopping ["-V", "--version"] .version]
  form := .command
  act := readCommand

/-- Read the arguments of the program. -/
def Options.read (arguments : List String) : Except Stop Options := do
  let (o, extras) ← programGrammar.read .default arguments
  match extras ++ o.extras with
  | [] => return o
  | extras => throw (.refused programName (.unrecognized extras))

/-! ### Stopping -/

/-- How a program is used. -/
def usage (program : String) : String :=
  "usage: " ++ program ++
    if program = runProgram then
      " [-h] [--no-proxy] [-s] [-k KEYS [KEYS ...]] [--format FORMAT] [--rate RATE]" ++
        " [--repeat REPEAT] [--sleep-limit SLEEP_LIMIT] [--threads THREADS]" ++
        " [--load-threads LOAD_THREADS] [--worker-timeout WORKER_TIMEOUT] [--timeout TIMEOUT]" ++
        " [--verify-tls] [-o OUTPUT] [arg ...]"
    else
      " [-h] [--verbose \x7b" ++ join "," (verbosities.map Prod.fst) ++ "\x7d] [-V] " ++ runName ++
        " ..."

namespace Stop

/-- The exit status of a program that stops. -/
def status : Stop → Nat
  | .help _ | .version => 0
  | .refused _ _ => 2

/-- What a program that stops prints. -/
def stdout : Stop → String
  | .help program => usage program ++ "\n"
  | .version => versionText ++ "\n"
  | .refused _ _ => ""

/-- What a program that stops complains of. -/
def stderr : Stop → String
  | .help _ | .version => ""
  | .refused program f =>
    usage program ++ "\n" ++ program ++ ": error: " ++ f.message ++ "\n"

end Stop

end TrafficReplay.CommandLine
