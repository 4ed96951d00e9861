import TrafficReplay.Replay.Dispatch

/-!
# Rehearsals

A rehearsal is a dispatch on a clock and with workers that are given in advance. It records what
the dispatcher does: when which session is handed out, how long it sleeps, and what it asks of the
workers.
-/

namespace TrafficReplay

/-- A clock in microseconds that goes on with every reading and every sleep. -/
structure Clock where
  now : Int
  /-- What a reading takes. -/
  tick : Int
  /-- What a sleep takes beyond the time asked for. -/
  overrun : Int
  deriving DecidableEq, Repr

namespace Clock

/-- Read a clock. -/
def read (c : Clock) : Int × Clock := (c.now, { c with now := c.now + c.tick })

/-- Let some time pass. -/
def sleep (c : Clock) (duration : Int) : Clock := { c with now := c.now + duration + c.overrun }

end Clock

/-- What is asked of the workers. -/
inductive WorkerRequest
  | take (timeout : Option Binary64)
  | shutDown
  | join
  deriving Repr

/-- The state of a rehearsal, with records in order. -/
structure Rehearsal where
  clock : Clock
  /-- How many more times there is a worker; `none` if always. -/
  available : Option Nat
  /-- The readings of the stopwatch to come. -/
  readings : List Binary64
  /-- Each item that was handed out, and when. -/
  assigned : List (Int × WorkItem)
  sleeps : List Int
  asked : List WorkerRequest

namespace Rehearsal

/-- A rehearsal before its start. -/
def start (clock : Clock) (available : Option Nat) (readings : List Binary64) : Rehearsal where
  clock := clock
  available := available
  readings := readings
  assigned := []
  sleeps := []
  asked := []

/-- Take a worker if there is one. -/
def take (timeout : Option Binary64) (r : Rehearsal) : Bool × Rehearsal :=
  let r := { r with asked := r.asked ++ [WorkerRequest.take timeout] }
  match r.available with
  | none => (true, r)
  | some 0 => (false, r)
  | some (n + 1) => (true, { r with available := some n })

/-- The surroundings that a rehearsal gives. -/
def surroundings : Surroundings Rehearsal where
  now r := let (t, clock) := r.clock.read; (t, { r with clock })
  sleep d r := { r with clock := r.clock.sleep d, sleeps := r.sleeps ++ [d] }
  takeWorker timeout r := let (b, r) := r.take timeout; (.ok b, r)
  assign w r := { r with assigned := r.assigned ++ [(r.clock.now, w)] }
  finish r := { r with asked := r.asked ++ [.shutDown, .join] }
  stopwatch r :=
    match r.readings with
    | [] => (.zero false, r)
    | x :: xs => (x, { r with readings := xs })

end Rehearsal

end TrafficReplay
