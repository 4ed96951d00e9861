import TrafficReplay.Number.Decimal

/-!
# Statistics of a replay

What a replay has handed out, how long it took, and the rates that follow from that.
-/

namespace TrafficReplay

/-- The totals of a replay. -/
structure ReplayStats where
  transactions : Int
  sessions : Int
  /-- The time from the first session to the end of the last one, in milliseconds. -/
  elapsed : Binary64
  /-- The complete passes over the batch. -/
  repetitions : Int
  aborted : Bool
  deriving Repr

namespace ReplayStats

/-- The totals before the first session. -/
def zero : ReplayStats := ⟨0, 0, .zero false, 0, false⟩

/-- The transactions of a session, on average. -/
def reuse (s : ReplayStats) : Except ArithmeticFault Binary64 :=
  if s.sessions = 0 then .ok (.zero false) else Binary64.quotient s.transactions s.sessions

/-- The transactions of a millisecond. -/
def throughput (s : ReplayStats) : Except ArithmeticFault Binary64 :=
  if s.elapsed.le (.zero false) then .ok (.zero false)
  else do (← Binary64.ofInt s.transactions).div s.elapsed

/-- The totals in one sentence. -/
def summary (s : ReplayStats) : Except ArithmeticFault String := do
  let reuse ← s.reuse
  let throughput ← s.throughput
  return toString s.transactions ++ " transactions in " ++ toString s.sessions ++
    " sessions (reuse " ++ reuse.fixed 2 ++ ") in " ++ s.elapsed.fixed 0 ++ "ms (" ++
    throughput.fixed 3 ++ " / millisecond)."

/-- The totals as they are saved, rates and times rounded. -/
structure Rounded where
  transactions : Int
  sessions : Int
  reuse : Binary64
  elapsed : Binary64
  throughput : Binary64
  repetitions : Int
  aborted : Bool
  deriving Repr

/-- Round rates and times. -/
def rounded (s : ReplayStats) : Except ArithmeticFault Rounded := do
  let reuse ← s.reuse
  let throughput ← s.throughput
  return {
    transactions := s.transactions
    sessions := s.sessions
    reuse := reuse.roundTo 2
    elapsed := s.elapsed.roundTo 2
    throughput := throughput.roundTo 3
    repetitions := s.repetitions
    aborted := s.aborted }

end ReplayStats

end TrafficReplay
