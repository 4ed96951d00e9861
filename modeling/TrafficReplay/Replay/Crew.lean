import TrafficReplay.Replay.Rehearsal
import TrafficReplay.Replay.Run

/-!
# The crew

The workers of a replay run the sessions that they are given, against a peer that may remember the
calls it has answered. A worker is busy for as long as its exchanges take, and the dispatcher may
have to wait for one; otherwise time passes on the clock only.

* `Crew`: the workers and what comes of their sessions;
* `Crew.surroundings`: the crew as surroundings of a dispatcher.
-/

namespace TrafficReplay

/-- A worker in the queue, and the time in milliseconds from which on it is idle. -/
structure Queued where
  worker : Nat
  idleFrom : Nat
  deriving DecidableEq, Repr

/-- The workers of a replay, and what comes of their sessions; the peer has a state of type `ρ`. -/
structure Crew (ρ : Type) where
  clock : Clock
  /-- The readings of the stopwatch to come. -/
  readings : List Binary64
  /-- The sleeps of the dispatcher, in seconds. -/
  sleeps : List Binary64
  /-- The time that the dispatcher has waited for workers, in milliseconds. -/
  waited : Nat
  queue : List Queued
  /-- The worker that was taken last. -/
  taken : Nat
  tally : Tally
  log : List LogRecord
  calls : List Call
  peer : ρ

namespace Crew

variable {ρ : Type}

/-- A crew of some workers before its first session. -/
def ofSize (size : Nat) (clock : Clock) (readings : List Binary64) (peer : ρ) : Crew ρ where
  clock := clock
  readings := readings
  sleeps := []
  waited := 0
  queue := (List.range size).map fun i => ⟨i, 0⟩
  taken := 0
  tally := .zero
  log := []
  calls := []
  peer := peer

/-! ### Time -/

/-- A number of microseconds as seconds. -/
def seconds (duration : Int) : Binary64 :=
  match do (← Binary64.ofInt duration).div (← Binary64.ofInt microsecondsPerSecond) with
  | .ok x => x
  | .error _ => .nan

/-- Sleep for a number of microseconds, counted in seconds. -/
def sleep (duration : Int) (c : Crew ρ) : Crew ρ :=
  let s := seconds duration
  let passed := (s.mul (Binary64.ofRatio false microsecondsPerSecond.toNat 1)).nearest
  { c with clock := c.clock.sleep passed, sleeps := c.sleeps ++ [s] }

/-! ### Workers -/

/-- The worker that is idle first; of several the one that came into the queue first. -/
def first? : List Queued → Option Queued
  | [] => none
  | q :: qs =>
    match first? qs with
    | none => some q
    | some r => some (if r.idleFrom < q.idleFrom then r else q)

/-- Whether a number of milliseconds is within a timeout in seconds. -/
def within (milliseconds : Nat) : Option Binary64 → Bool
  | none => true
  | some t => (Binary64.ofRatio false milliseconds 1000).le t

/-- Wait for a worker. -/
def take (timeout : Option Binary64) (c : Crew ρ) : Except PoolFault Bool × Crew ρ :=
  if Pool.isNegative timeout then (.error .negativeTimeout, c)
  else
    match first? c.queue with
    | none => (.ok false, c)
    | some q =>
      if within (q.idleFrom - c.waited) timeout then
        (.ok true,
          { c with
            queue := c.queue.erase q
            waited := max c.waited q.idleFrom
            taken := q.worker })
      else (.ok false, c)

/-- Take account of the run of an item. A run that was stopped counts for nothing. -/
def record (c : Crew ρ) (w : WorkItem) (r : Except RunFault SessionResult) : Crew ρ :=
  match r with
  | .ok r => { c with tally := c.tally.add r, log := c.log ++ r.report.logged sessionChannel }
  | .error _ => { c with log := c.log ++ [Pool.failureNote c.taken w.describe] }

/-- Let the worker that was taken run an item. -/
def assign (context : RunContext ρ) (w : WorkItem) (c : Crew ρ) : Crew ρ :=
  let (r, run) := runSession context w c.peer
  { c.record w r with
    queue := c.queue ++ [⟨c.taken, c.waited + run.elapsed⟩]
    calls := c.calls ++ run.calls
    peer := run.peer }

/-- The crew as surroundings of a dispatcher. -/
def surroundings (context : RunContext ρ) : Surroundings (Crew ρ) where
  now c := let (t, clock) := c.clock.read; (t, { c with clock })
  sleep := sleep
  takeWorker := take
  assign := assign context
  finish c := c
  stopwatch c :=
    match c.readings with
    | [] => (.zero false, c)
    | x :: xs => (x, { c with readings := xs })

end Crew

end TrafficReplay
