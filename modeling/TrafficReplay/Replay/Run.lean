import TrafficReplay.Replay.Exchange

/-!
# Running sessions

The transactions of a session are sent in order over one carrier. A session whose target is not
reached in the first exchange ends there; after any later failure the next transaction is sent. A
client that is made for a session is closed after it.

* `runTransactions`, `runSession`: the transactions, and the session as a whole;
* `Outcome`, `SessionResult`, `Tally`: what comes of a session, and of all.
-/

namespace TrafficReplay

/-- What stops the replay of a session. -/
inductive RunFault
  /-- The body cannot be made. -/
  | body (fault : Fault)
  | failure (failure : Failure)

/-- The client that the exchanges of a session go through. -/
inductive ClientState
  | absent
  | opened
  | closed
  deriving DecidableEq, Repr

/-- A client after it was closed. One that was not made needs no closing. -/
def ClientState.close : ClientState → ClientState
  | .absent => .absent
  | .opened | .closed => .closed

/-- What a session is run on: the other side and the client, and what was done. -/
structure SessionRun (ρ : Type) where
  peer : ρ
  client : ClientState
  calls : List Call
  /-- The time that the exchanges took, in milliseconds. -/
  elapsed : Nat
  transactionsRun : Nat
  transactionsFailed : Nat
  report : Report

/-- A session before its first exchange. -/
def SessionRun.start {ρ : Type} (peer : ρ) : SessionRun ρ := ⟨peer, .absent, [], 0, 0, 0, []⟩

/-- Steps of the run of a session. -/
abbrev OnSession (ρ : Type) := Step (SessionRun ρ) RunFault

/-- What the replay of sessions depends on. -/
structure RunContext (ρ : Type) where
  settings : Settings
  names : NameTable
  /-- The buffer that bodies are cut from. -/
  buffer : Body
  peer : Peer ρ

/-- The context that a run state gives. -/
def RunState.context {ρ : Type} (s : RunState) (settings : Settings) (peer : Peer ρ) :
    RunContext ρ :=
  ⟨settings, s.names, s.buffer, peer⟩

section

variable {ρ : Type} (c : RunContext ρ)

/-- Add notes to the report. -/
def tell (r : Report) : OnSession ρ Unit := modify fun s => { s with report := s.report ++ r }

/-- Count a transaction that was run. -/
def countRun : OnSession ρ Unit :=
  modify fun s => { s with transactionsRun := s.transactionsRun + 1 }

/-- Count a transaction that failed. -/
def countFailed : OnSession ρ Unit :=
  modify fun s => { s with transactionsFailed := s.transactionsFailed + 1 }

/-- Make a call. -/
def exchange (call : Call) : OnSession ρ (Except Failure Received) :=
  Step.ofRun fun s =>
    let (a, peer) := c.peer call s.peer
    (.ok a.outcome,
      { s with peer, calls := s.calls ++ [call], elapsed := s.elapsed + a.delay })

/-- Send the request of a transaction. -/
def send (carrier : Carrier) (target : Endpoint) (t : Transaction) :
    OnSession ρ (Except Failure Received) :=
  match callFor carrier c.settings c.buffer target t.request with
  | .ok call => exchange c call
  | .error f => throw (.body f)

/-- Take account of a received response. -/
def receive (t : Transaction) (r : Received) : OnSession ρ Unit := do
  countRun
  let notes := verify t r.status r.headers c.names
  if !notes.ok then countFailed
  tell notes

/-- Take account of a failure that ends an exchange; the answer is whether the session goes on. -/
def recover (carrier : Carrier) (target : Endpoint) (t : Transaction) (f : Failure) :
    OnSession ρ Bool := do
  countFailed
  if (← get).transactionsRun = 0 ∧ f.isUnreachable carrier then
    tell [⟨.error, "Failed to connect to " ++ target.netloc ++ ": " ++ f.message⟩]
    return false
  else
    tell [⟨.error, "Transaction " ++ t.request.target ++ " to " ++ target.netloc ++ " failed: " ++
      f.message⟩]
    countRun
    return true

/-- Run a transaction; the answer is whether the session goes on. -/
def runTransaction (carrier : Carrier) (target : Endpoint) (t : Transaction) :
    OnSession ρ Bool := do
  match ← send c carrier target t with
  | .ok r =>
    receive c t r
    return true
  | .error f => if f.endsExchange carrier then recover carrier target t f else throw (.failure f)

/-- Run transactions in order. -/
def runTransactions (carrier : Carrier) (target : Endpoint) : List Transaction → OnSession ρ Unit
  | [] => return
  | t :: ts => do if ← runTransaction c carrier target t then runTransactions carrier target ts

end

/-! ### Outcomes -/

/-- What comes of a session. -/
inductive Outcome
  | success
  | failed
  | skipped
  deriving DecidableEq, Repr

/-- What an outcome is called. -/
def Outcome.name : Outcome → String
  | .success => "success"
  | .failed => "failed"
  | .skipped => "skipped"

/-- What comes of a session, with its counts. -/
structure SessionResult where
  outcome : Outcome
  transactionsRun : Nat
  transactionsFailed : Nat
  report : Report
  deriving Repr

/-- The result of a run that was not stopped. -/
def SessionRun.result {ρ : Type} (s : SessionRun ρ) : SessionResult where
  outcome := if s.report.ok then .success else .failed
  transactionsRun := s.transactionsRun
  transactionsFailed := s.transactionsFailed
  report := s.report

section

variable {ρ : Type} (c : RunContext ρ)

/-- Make the client for a target. The target is not reached before the first exchange. -/
def connect (carrier : Carrier) (target : Endpoint) : OnSession ρ Unit := do
  tell [⟨.diag, "Connecting via " ++ carrier.description ++ " to " ++ target.netloc ++ "."⟩]
  modify fun s => { s with client := .opened }

/-- A step, and after it, whether it met a fault or not, the end of the client. -/
def thenClose {α : Type} (x : OnSession ρ α) : OnSession ρ α :=
  Step.ofRun fun s =>
    let (r, s) := x.runOn s
    (r, { s with client := s.client.close })

/-- Run a work item. -/
def runItem (w : WorkItem) : OnSession ρ SessionResult := do
  let ssn := w.session
  tell [⟨.diag, "Starting session " ++ ssn.location ++ " protocol=" ++ ssn.protocol.name ++ "."⟩]
  match Carrier.select c.settings.mode ssn with
  | none =>
    tell [⟨.diag, "Ignoring HTTP/2 traffic in no-proxy mode, " ++ ssn.location ++ "."⟩]
    return ⟨.skipped, 0, 0, (← get).report⟩
  | some carrier =>
    thenClose do
      connect carrier w.target
      if (← get).report.ok then runTransactions c carrier w.target ssn.transactions
    return (← get).result

/-- Run a work item from the start. -/
def runSession (w : WorkItem) (peer : ρ) : Except RunFault SessionResult × SessionRun ρ :=
  (runItem c w).runOn (.start peer)

end

/-- The outcomes of the sessions that were run. -/
structure Tally where
  succeeded : Nat
  failed : Nat
  skipped : Nat
  transactionsFailed : Nat
  deriving DecidableEq, Repr

namespace Tally

/-- The tally before the first session. -/
def zero : Tally := ⟨0, 0, 0, 0⟩

/-- Take account of a session. -/
def add (t : Tally) (r : SessionResult) : Tally :=
  let t := { t with transactionsFailed := t.transactionsFailed + r.transactionsFailed }
  match r.outcome with
  | .success => { t with succeeded := t.succeeded + 1 }
  | .failed => { t with failed := t.failed + 1 }
  | .skipped => { t with skipped := t.skipped + 1 }

end Tally

/-- The channel under which the reports of sessions are logged. -/
def sessionChannel : String := "proxyreplay.replay.runner"

end TrafficReplay
