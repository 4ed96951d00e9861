import TrafficReplay.Report
import TrafficReplay.Step
import TrafficReplay.Replay.Pacing
import TrafficReplay.Replay.Pool
import TrafficReplay.Replay.Rotation
import TrafficReplay.Replay.Stats

/-!
# Dispatching sessions

The sessions of a batch are handed out to workers in order, the whole batch several times. A
session waits until it is due, but never longer than a limit at once, so that a replay that has
fallen behind does not wait at all.

* `Surroundings`: the clock and the workers that a dispatcher has around it;
* `Plan`, `dispatch`: how often and how patiently, and the handing out;
* `replay`: the handing out, and waiting for the workers to end.
-/

namespace TrafficReplay

/-- A session with the target that was picked for it. -/
structure WorkItem where
  session : Session
  target : Endpoint
  deriving Repr

/-- A work item as it is told in a message. -/
def WorkItem.describe (w : WorkItem) : String :=
  "WorkItem(session=" ++ w.session.describe ++ ", target=" ++ w.target.describe ++ ")"

/-- What a dispatcher has around it, on a state of type `σ`. -/
structure Surroundings (σ : Type) where
  /-- The time in microseconds. -/
  now : σ → Int × σ
  /-- Let a number of microseconds pass. -/
  sleep : Int → σ → σ
  /-- Wait for an idle worker, up to a number of seconds if there is one; the answer is whether
  there was one. -/
  takeWorker : Option Binary64 → σ → Except PoolFault Bool × σ
  /-- Hand an item to the worker that was taken. -/
  assign : WorkItem → σ → σ
  /-- Let the workers end what they do, and wait for that. -/
  finish : σ → σ
  /-- The reading of a stopwatch in seconds. -/
  stopwatch : σ → Binary64 × σ

/-- How a batch is handed out. -/
structure Plan where
  repetitions : Nat
  /-- The longest sleep, in microseconds. -/
  sleepLimit : Int
  /-- How long to wait for a worker, in seconds. -/
  workerTimeout : Option Binary64

/-- The plan for a number of repetitions, which has to be positive. -/
def Plan.make (count sleepLimit : Int) (workerTimeout : Option Binary64) :
    Except SetupFault Plan :=
  if count < 1 then .error (.badRepeat count) else .ok ⟨count.toNat, sleepLimit, workerTimeout⟩

/-- What a dispatcher works on. -/
structure Dispatch (σ : Type) where
  outside : σ
  rotation : Rotation
  stats : ReplayStats
  report : Report

/-- A dispatch before its first session. -/
def Dispatch.start {σ : Type} (outside : σ) (rotation : Rotation) : Dispatch σ :=
  ⟨outside, rotation, .zero, []⟩

/-- What stops a dispatch. -/
inductive DispatchFault
  | arithmetic (fault : ArithmeticFault)
  | pool (fault : PoolFault)
  deriving DecidableEq, Repr

/-- Steps of a dispatch. -/
abbrev OnDispatch (σ : Type) := Step (Dispatch σ) DispatchFault

namespace OnDispatch

variable {σ α : Type}

/-- A step on the surroundings. -/
def outside (f : σ → α × σ) : OnDispatch σ α :=
  Step.ofRun fun d =>
    let (a, s) := f d.outside
    (.ok a, { d with outside := s })

/-- A change of the surroundings. -/
def affect (f : σ → σ) : OnDispatch σ Unit := outside fun s => ((), f s)

/-- The result of a computation. -/
def arithmetic (x : Except ArithmeticFault α) : OnDispatch σ α :=
  Step.update fun d => (x.map fun a => (d, a)).mapError DispatchFault.arithmetic

/-- Wait for an idle worker. -/
def takeWorker (e : Surroundings σ) (timeout : Option Binary64) : OnDispatch σ Bool :=
  Step.ofRun fun d =>
    let (r, s) := e.takeWorker timeout d.outside
    (r.mapError DispatchFault.pool, { d with outside := s })

/-- The next target for a protocol. -/
def nextTarget (p : Protocol) : OnDispatch σ Endpoint :=
  Step.ofRun fun d =>
    let (target, rotation) := d.rotation.next p
    (.ok target, { d with rotation })

/-- Change the totals. -/
def count (f : ReplayStats → ReplayStats) : OnDispatch σ Unit :=
  modify fun d => { d with stats := f d.stats }

/-- Add a note to the report. -/
def report (n : Note) : OnDispatch σ Unit :=
  modify fun d => { d with report := d.report ++ [n] }

end OnDispatch

section

variable {σ : Type} (e : Surroundings σ) (plan : Plan) (multiplier : Quantity)
open OnDispatch

/-- Sleep if a session is not due yet. -/
def pace (baseline : Int) (ssn : Session) : OnDispatch σ Unit := do
  let now ← outside e.now
  let due := (← arithmetic (dueAfter multiplier ssn.start)) + baseline
  if now < due then affect (e.sleep (min plan.sleepLimit (due - now)))

/-- Hand a session to the worker that was taken. -/
def handOut (ssn : Session) : OnDispatch σ Unit := do
  let target ← nextTarget ssn.protocol
  affect (e.assign ⟨ssn, target⟩)
  count fun s =>
    { s with
      sessions := s.sessions + 1
      transactions := s.transactions + ssn.transactions.length }

/-- Give up because there is no worker for a session. -/
def giveUp (ssn : Session) : OnDispatch σ Unit := do
  report ⟨.error, "Failed to get worker thread for session at " ++ ssn.location ++ "."⟩
  count fun s => { s with aborted := true }

/-- Dispatch a session; the answer is whether there was a worker for it. -/
def dispatchSession (baseline : Int) (ssn : Session) : OnDispatch σ Bool := do
  pace e plan multiplier baseline ssn
  if ← takeWorker e plan.workerTimeout then
    handOut e ssn
    return true
  else
    giveUp ssn
    return false

/-- Dispatch sessions up to the first one without a worker; the answer is whether there is
none such. -/
def dispatchBatch (baseline : Int) : List Session → OnDispatch σ Bool
  | [] => return true
  | ssn :: ssns => do
    if ← dispatchSession e plan multiplier baseline ssn then dispatchBatch baseline ssns
    else return false

/-- Dispatch a batch a number of times, each time from a new baseline. -/
def dispatchTimes (ssns : List Session) : Nat → OnDispatch σ Unit
  | 0 => return
  | n + 1 => do
    let baseline ← outside e.now
    if ← dispatchBatch e plan multiplier baseline ssns then
      count fun s => { s with repetitions := s.repetitions + 1 }
      dispatchTimes ssns n

/-- Dispatch a batch as often as planned. -/
def dispatch (ssns : List Session) : OnDispatch σ Unit :=
  dispatchTimes e plan multiplier ssns plan.repetitions

/-- A step, and after it, whether it met a fault or not, the end of the workers. -/
def thenFinish {α : Type} (x : OnDispatch σ α) : OnDispatch σ α :=
  Step.ofRun fun d =>
    let (r, d) := x.runOn d
    (r, { d with outside := e.finish d.outside })

/-- The milliseconds of a second. -/
def millisecondsPerSecond : Binary64 := Binary64.ofRatio false 1000 1

/-- Dispatch a batch, wait for the workers to end, and sum up. -/
def replay (ssns : List Session) : OnDispatch σ Unit := do
  let start ← outside e.stopwatch
  thenFinish e (dispatch e plan multiplier ssns)
  let stop ← outside e.stopwatch
  count fun s => { s with elapsed := (stop.sub start).mul millisecondsPerSecond }
  let summary ← arithmetic (← get).stats.summary
  report ⟨.info, summary⟩

end

end TrafficReplay
