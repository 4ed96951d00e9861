import TrafficReplay.Number.Binary64
import TrafficReplay.Report
import TrafficReplay.Replay.Setup

/-!
# The worker pool

A fixed number of workers, each with a slot for one job. A worker that gets a job runs it and goes
back to the queue of idle workers; after a shutdown it ends instead, but a job that it has in its
slot while it waits is still run. A job with a gate runs until its gate is opened.

* `Pool`, `Pool.settle`: the pool, and what its workers do until they come to rest;
* `Pool.Operation`, `Pool.perform`: what is done to a pool, and what it answers.
-/

namespace TrafficReplay

/-- Why a pool refuses what is asked of it. -/
inductive PoolFault
  | shutDown
  | pendingWork (worker : Nat)
  | negativeTimeout
  deriving DecidableEq, Repr

/-- The wording of a fault. -/
def PoolFault.message : PoolFault → String
  | .shutDown => "Cannot assign work after shutdown"
  | .pendingWork i => "Worker " ++ toString i ++ " already has pending work"
  | .negativeTimeout => "'timeout' must be a non-negative number"

/-- A job for a worker. -/
structure Job where
  name : String
  /-- Whether it runs until its gate is opened. -/
  gated : Bool
  /-- Whether it fails in the end. -/
  fails : Bool
  deriving DecidableEq, Repr

/-- What a worker is doing. -/
inductive WorkerPhase
  | notStarted
  /-- Waiting for a job or a shutdown. -/
  | waiting
  | running (job : Job)
  | ended
  deriving DecidableEq, Repr

/-- A worker. -/
structure Worker where
  /-- The job in its slot. -/
  pending : Option Job
  phase : WorkerPhase
  /-- How many jobs it has completed, failed ones included. -/
  completed : Nat
  deriving DecidableEq, Repr

namespace Worker

/-- A worker before its start. -/
def fresh : Worker := ⟨none, .notStarted, 0⟩

/-- Whether a worker has been started and has not ended. -/
def alive (w : Worker) : Bool :=
  match w.phase with
  | .waiting | .running _ => true
  | .notStarted | .ended => false

/-- The job that a worker runs. -/
def running? (w : Worker) : Option Job :=
  match w.phase with
  | .running j => some j
  | _ => none

end Worker

/-- A pool of workers, which are known by their positions. -/
structure Pool where
  workers : List Worker
  /-- The idle workers, the longest idle first. -/
  idle : List Nat
  /-- The jobs whose gates are open. -/
  opened : List String
  /-- The jobs that were started, in order, each with its worker. -/
  ran : List (Nat × Job)
  started : Bool
  shutDown : Bool
  log : List LogRecord
  deriving Repr

namespace Pool

/-- The channel of a pool's log. -/
def channel : String := "proxyreplay.replay.pool"

/-- A pool of workers that are not started. -/
def ofSize (size : Nat) : Pool where
  workers := List.replicate size .fresh
  idle := []
  opened := []
  ran := []
  started := false
  shutDown := false
  log := []

/-- A pool of a size, for some work to do. -/
def make (size : Int) (hasWork : Bool) : Except SetupFault Pool :=
  if size < 1 then .error (.badPoolSize size)
  else if hasWork then .ok (ofSize size.toNat)
  else .error .noWork

/-- The note on the start of a pool. -/
def startNote (size : Nat) : LogRecord :=
  ⟨channel, .diag, "Started " ++ toString size ++ " replay workers"⟩

/-- The note on a job that failed on a worker. -/
def failureNote (worker : Nat) (job : String) : LogRecord :=
  ⟨channel, .error, "Worker " ++ toString worker ++ " failed running " ++ job⟩

/-- Change a worker. -/
def onWorker (p : Pool) (i : Nat) (f : Worker → Worker) : Pool :=
  { p with workers := p.workers.modify i f }

/-- Put a worker into the queue of idle ones. -/
def release (p : Pool) (i : Nat) : Pool := { p with idle := p.idle ++ [i] }

/-! ### Coming to rest -/

/-- Whether a job can run to its end. -/
def canEnd (p : Pool) (j : Job) : Bool := !j.gated || p.opened.contains j.name

/-- Let a worker that waits start the job in its slot. -/
def startPending (p : Pool) (i : Nat) : Pool :=
  match p.workers[i]? with
  | some ⟨some j, .waiting, n⟩ =>
    { p.onWorker i fun _ => ⟨none, .running j, n⟩ with ran := p.ran ++ [(i, j)] }
  | _ => p

/-- Let a worker end its job if it can. Then the worker is idle, or ends after a shutdown. -/
def endRunning (p : Pool) (i : Nat) : Pool :=
  match p.workers[i]? with
  | some ⟨pending, .running j, n⟩ =>
    if p.canEnd j then
      let p := { p with log := if j.fails then p.log ++ [failureNote i j.name] else p.log }
      if p.shutDown then p.onWorker i fun _ => ⟨pending, .ended, n + 1⟩
      else (p.onWorker i fun _ => ⟨pending, .waiting, n + 1⟩).release i
    else p
  | _ => p

/-- Let a worker that waits without a job end after a shutdown. -/
def endWaiting (p : Pool) (i : Nat) : Pool :=
  match p.workers[i]? with
  | some ⟨none, .waiting, n⟩ => if p.shutDown then p.onWorker i fun _ => ⟨none, .ended, n⟩ else p
  | _ => p

/-- Let a worker go on until it comes to rest. It ends the job it runs, runs the one in its slot,
and waits or ends. -/
def settleWorker (p : Pool) (i : Nat) : Pool :=
  (((p.endRunning i).startPending i).endRunning i).endWaiting i

/-- Let all workers go on until they come to rest. -/
def settle (p : Pool) : Pool := (List.range p.workers.length).foldl settleWorker p

/-! ### Operations -/

/-- Start the workers of a pool that is not started. -/
def start (p : Pool) : Pool :=
  if p.started then p
  else
    { p with
      workers := p.workers.map fun w => { w with phase := .waiting }
      idle := p.idle ++ List.range p.workers.length
      started := true
      log := p.log ++ [startNote p.workers.length] }

/-- Whether a timeout is negative. -/
def isNegative : Option Binary64 → Bool
  | none => false
  | some t => t.lt (.zero false)

/-- Take the worker that has been idle longest. Without an idle one the answer is none at once, also
if there is no timeout, where a caller would wait for ever: who waits takes again after a step of
the pool. -/
def take (p : Pool) (timeout : Option Binary64) : Except PoolFault (Option Nat × Pool) :=
  if !p.started || p.shutDown then .ok (none, p)
  else if isNegative timeout then .error .negativeTimeout
  else
    match p.idle with
    | [] => .ok (none, p)
    | i :: is => .ok (some i, { p with idle := is })

/-- Put a job into the slot of a worker. -/
def assign (p : Pool) (i : Nat) (j : Job) : Except PoolFault Pool :=
  if p.shutDown then .error .shutDown
  else if ((p.workers[i]?).bind Worker.pending).isSome then .error (.pendingWork i)
  else .ok (p.onWorker i fun w => { w with pending := some j })

/-- What is done to a pool. -/
inductive Operation
  | start
  | take (timeout : Option Binary64)
  | assign (worker : Nat) (job : Job)
  | wake (worker : Nat)
  | release (worker : Nat)
  /-- Open the gate of a job. -/
  | finish (job : String)
  | shutDown
  | join
  deriving Repr

/-- The effect of an operation before the workers go on; the answer is a worker that was taken. -/
def act (p : Pool) : Operation → Except PoolFault (Option Nat × Pool)
  | .start => .ok (none, p.start)
  | .take timeout => p.take timeout
  | .assign i j => do return (none, ← p.assign i j)
  | .wake _ => .ok (none, p)
  | .release i => .ok (none, p.release i)
  | .finish name => .ok (none, { p with opened := p.opened ++ [name] })
  | .shutDown => .ok (none, { p with shutDown := true })
  | .join => .ok (none, p)

/-- Do something to a pool and let its workers come to rest. -/
def perform (p : Pool) (o : Operation) : Except PoolFault (Option Nat) × Pool :=
  match p.act o with
  | .ok (r, p) => (.ok r, p.settle)
  | .error f => (.error f, p)

/-! ### What is seen of a pool -/

/-- The number of completed jobs. -/
def completed (p : Pool) : Nat := p.workers.foldr (fun w n => w.completed + n) 0

/-- Whether a worker that waits would go on. -/
def isReady (p : Pool) (w : Worker) : Bool := p.shutDown || w.pending.isSome

/-- The names of the running jobs. -/
def running (p : Pool) : List String := p.workers.filterMap fun w => w.running?.map Job.name

/-- Shut a pool down and open the gates of the jobs that run. -/
def close (p : Pool) : Pool :=
  let p := (p.perform .shutDown).2
  p.running.foldl (fun p job => (p.perform (.finish job)).2) p

end Pool

end TrafficReplay
