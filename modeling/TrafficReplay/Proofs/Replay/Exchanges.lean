import Mathlib.Data.List.Forall2
import TrafficReplay.Proofs.Replay.Sessions

/-!
# What comes of the exchanges of a session

The accounts of a session follow from the outcomes of its exchanges.  A session whose first
exchange does not reach the target ends with it; in every other one all transactions are sent, and
one that fails or gets a response that it does not expect counts as failed.

* `Peer.outcomes`: the outcomes of calls one after another;
* `SessionRun.Went`: what exchanges add to the accounts of a run;
* `runSession_of_outcomes`: the calls, counts and outcome of a session;
* `runSession_of_unconnected`: sessions whose first exchange gets no connection.
-/

namespace TrafficReplay

variable {ρ : Type} {c : RunContext ρ} {carrier : Carrier} {target : Endpoint} {w : WorkItem}

/-! ### Outcomes of exchanges -/

/-- The outcomes of calls that are made one after another. -/
def Peer.outcomes (peer : Peer ρ) : List Call → ρ → List (Except Failure Received)
  | [], _ => []
  | call :: calls, s => (peer call s).1.outcome :: outcomes peer calls (peer call s).2

/-- Whether an exchange failed. -/
def isRaised : Except Failure Received → Bool
  | .ok _ => false
  | .error _ => true

/-- Whether an exchange failed because the target was not reached. -/
def isUnreached (carrier : Carrier) : Except Failure Received → Bool
  | .ok _ => false
  | .error f => f.isUnreachable carrier

/-- Whether there is a response to a transaction that is not as expected. -/
def Transaction.isViolated (names : NameTable) (t : Transaction) : Except Failure Received → Bool
  | .ok r => !(verify t r.status r.headers names).ok
  | .error _ => false

/-- How many transactions come to a failure or to a response that is not as expected. -/
def failures (names : NameTable) (ts : List Transaction) (os : List (Except Failure Received)) :
    Nat :=
  os.countP isRaised + (ts.zip os).countP fun x => x.1.isViolated names x.2

theorem failures_cons (names : NameTable) (t : Transaction) (ts : List Transaction)
    (o : Except Failure Received) (os : List (Except Failure Received)) :
    failures names (t :: ts) (o :: os) =
      (if isRaised o || t.isViolated names o then 1 else 0) + failures names ts os := by
  unfold failures
  rw [List.zip_cons_cons, List.countP_cons, List.countP_cons]
  cases o with
  | error f =>
    simp [isRaised, Transaction.isViolated]
    omega
  | ok r =>
    simp [isRaised]
    omega

/-- That some calls are those for the requests of some transactions, in order. -/
def CallsFor (c : RunContext ρ) (carrier : Carrier) (target : Endpoint) :
    List Transaction → List Call → Prop :=
  List.Forall₂ fun t call => callFor carrier c.settings c.buffer target t.request = .ok call

/-! ### Accounts of exchanges -/

namespace SessionRun

variable {s t u : SessionRun ρ}

/-- What some calls add to the accounts of a run, with a number of transactions and of failed
ones. -/
structure Went (s t : SessionRun ρ) (made : List Call) (run failed : Nat) : Prop where
  calls : t.calls = s.calls ++ made
  transactionsRun : t.transactionsRun = s.transactionsRun + run
  transactionsFailed : t.transactionsFailed = s.transactionsFailed + failed
  /-- Errors are reported with failed transactions only. -/
  ok : t.report.ok = (s.report.ok && decide (failed = 0))

theorem Went.refl (s : SessionRun ρ) : s.Went s [] 0 0 :=
  ⟨by simp, rfl, rfl, by simp⟩

theorem Went.trans {made made' : List Call} {run run' failed failed' : Nat}
    (h : s.Went t made run failed) (h' : t.Went u made' run' failed') :
    s.Went u (made ++ made') (run + run') (failed + failed') where
  calls := by rw [h'.calls, h.calls, List.append_assoc]
  transactionsRun := by rw [h'.transactionsRun, h.transactionsRun, Nat.add_assoc]
  transactionsFailed := by rw [h'.transactionsFailed, h.transactionsFailed, Nat.add_assoc]
  ok := by
    rw [h'.ok, h.ok, Bool.and_assoc, ← Bool.decide_and]
    simp only [Nat.add_eq_zero_iff]

variable {tr : Transaction} {call : Call}

theorem runOn_receive (r : Received) (s : SessionRun ρ) :
    (receive c tr r).runOn s =
      (.ok (), { s with
        transactionsRun := s.transactionsRun + 1
        transactionsFailed := s.transactionsFailed +
          if tr.isViolated c.names (.ok r) then 1 else 0
        report := s.report ++ verify tr r.status r.headers c.names }) := by
  unfold receive Transaction.isViolated
  cases hok : (verify tr r.status r.headers c.names).ok <;> simp [hok] <;> rfl

/-- A failure ends the session if the target was not reached in its first exchange. -/
theorem runOn_recover (f : Failure) (s : SessionRun ρ) :
    (recover carrier target tr f).runOn s =
      if s.transactionsRun = 0 ∧ f.isUnreachable carrier = true then
        (.ok false, { s with
          transactionsFailed := s.transactionsFailed + 1
          report := s.report ++
            [⟨.error, "Failed to connect to " ++ target.netloc ++ ": " ++ f.message⟩] })
      else
        (.ok true, { s with
          transactionsRun := s.transactionsRun + 1
          transactionsFailed := s.transactionsFailed + 1
          report := s.report ++
            [⟨.error, "Transaction " ++ tr.request.target ++ " to " ++ target.netloc ++
              " failed: " ++ f.message⟩] }) := by
  have hcount : (countFailed : OnSession ρ Unit).runOn s =
      (.ok (), { s with transactionsFailed := s.transactionsFailed + 1 }) := rfl
  unfold recover
  rw [Step.runOn_bind_of_ok hcount, Step.runOn_bind_of_ok (Step.runOn_get _)]
  dsimp only
  split <;> rfl

/-- A response counts as failed if it is not as expected. -/
theorem runTransaction_of_ok {r : Received}
    (hcall : callFor carrier c.settings c.buffer target tr.request = .ok call)
    (houtcome : (c.peer call s.peer).1.outcome = .ok r) :
    ∃ t, (runTransaction c carrier target tr).runOn s = (.ok true, t) ∧
      t.peer = (c.peer call s.peer).2 ∧
      s.Went t [call] 1 (if tr.isViolated c.names (.ok r) then 1 else 0) := by
  rw [runOn_runTransaction hcall, houtcome]
  dsimp only
  rw [Step.runOn_bind_of_ok (runOn_receive r _)]
  refine ⟨_, rfl, rfl, rfl, rfl, rfl, ?_⟩
  rw [Report.ok_append, Transaction.isViolated]
  cases (verify tr r.status r.headers c.names).ok <;> rfl

/-- After a failure the session goes on, unless it is the first exchange and the target was not
reached. -/
theorem runTransaction_of_error {f : Failure}
    (hcall : callFor carrier c.settings c.buffer target tr.request = .ok call)
    (houtcome : (c.peer call s.peer).1.outcome = .error f) (hends : f.endsExchange carrier = true)
    (hreached : ¬ (s.transactionsRun = 0 ∧ f.isUnreachable carrier = true)) :
    ∃ t, (runTransaction c carrier target tr).runOn s = (.ok true, t) ∧
      t.peer = (c.peer call s.peer).2 ∧ s.Went t [call] 1 1 := by
  rw [runOn_runTransaction hcall, houtcome]
  dsimp only
  have hsent : ¬ ((s.sent c call).transactionsRun = 0 ∧ f.isUnreachable carrier = true) := hreached
  rw [if_pos hends, runOn_recover, if_neg hsent]
  refine ⟨_, rfl, rfl, rfl, rfl, rfl, ?_⟩
  simp [sent, Report.ok]

/-- A first exchange that does not reach the target ends the session. -/
theorem runTransaction_of_unreached {f : Failure}
    (hcall : callFor carrier c.settings c.buffer target tr.request = .ok call)
    (houtcome : (c.peer call s.peer).1.outcome = .error f) (hends : f.endsExchange carrier = true)
    (hfirst : s.transactionsRun = 0 ∧ f.isUnreachable carrier = true) :
    ∃ t, (runTransaction c carrier target tr).runOn s = (.ok false, t) ∧ s.Went t [call] 0 1 := by
  rw [runOn_runTransaction hcall, houtcome]
  dsimp only
  have hsent : (s.sent c call).transactionsRun = 0 ∧ f.isUnreachable carrier = true := hfirst
  rw [if_pos hends, runOn_recover, if_pos hsent]
  refine ⟨_, rfl, rfl, rfl, rfl, ?_⟩
  simp [sent, Report.ok]

/-- Unless the first exchange does not reach the target, all transactions are sent. -/
theorem runTransactions_of_reached {ts : List Transaction} {calls : List Call}
    (hcalls : CallsFor c carrier target ts calls)
    (hends : ∀ f, .error f ∈ c.peer.outcomes calls s.peer → f.endsExchange carrier = true)
    (hreached : ¬ (s.transactionsRun = 0 ∧
      (c.peer.outcomes calls s.peer).head?.any (isUnreached carrier) = true)) :
    ∃ t, (runTransactions c carrier target ts).runOn s = (.ok (), t) ∧
      s.Went t calls ts.length (failures c.names ts (c.peer.outcomes calls s.peer)) := by
  induction hcalls generalizing s with
  | nil => exact ⟨s, rfl, .refl s⟩
  | @cons tr call ts calls hcall hcalls ih =>
    rw [Peer.outcomes] at hends hreached ⊢
    obtain ⟨t, hrun, hpeer, hwent⟩ : ∃ t,
        (runTransaction c carrier target tr).runOn s = (.ok true, t) ∧
        t.peer = (c.peer call s.peer).2 ∧
        s.Went t [call] 1 (if isRaised (c.peer call s.peer).1.outcome ||
          tr.isViolated c.names (c.peer call s.peer).1.outcome then 1 else 0) := by
      cases houtcome : (c.peer call s.peer).1.outcome with
      | ok r => exact runTransaction_of_ok hcall houtcome
      | error f =>
        rw [houtcome] at hends hreached
        exact runTransaction_of_error hcall houtcome (hends f List.mem_cons_self) hreached
    -- From here on a transaction was run, so nothing ends the session.
    have hlater : t.transactionsRun ≠ 0 := by simp [hwent.transactionsRun]
    rw [← hpeer] at hends ⊢
    obtain ⟨u, hrest, hwent'⟩ :=
      ih (fun f hf => hends f (List.mem_cons_of_mem _ hf)) fun h => hlater h.1
    refine ⟨u, ?_, ?_⟩
    · rw [runTransactions, Step.runOn_bind_of_ok hrun, if_pos rfl, hrest]
    · have hboth := hwent.trans hwent'
      rw [failures_cons, List.length_cons, Nat.add_comm ts.length]
      exact hboth

/-- If the first exchange does not reach the target, no other transaction is sent. -/
theorem runTransactions_of_unreached {ts : List Transaction} {f : Failure}
    (hcall : callFor carrier c.settings c.buffer target tr.request = .ok call)
    (houtcome : (c.peer call s.peer).1.outcome = .error f) (hends : f.endsExchange carrier = true)
    (hfirst : s.transactionsRun = 0 ∧ f.isUnreachable carrier = true) :
    ∃ t, (runTransactions c carrier target (tr :: ts)).runOn s = (.ok (), t) ∧
      s.Went t [call] 0 1 := by
  obtain ⟨t, hrun, hwent⟩ := runTransaction_of_unreached hcall houtcome hends hfirst
  exact ⟨t, by rw [runTransactions, Step.runOn_bind_of_ok hrun]; rfl, hwent⟩

/-! ### The client -/

/-- The contract of a step that leaves the client as it is. -/
def keepsClient : Contract (SessionRun ρ) RunFault := .leaving client fun _ _ => True

theorem allowsAccounts_keepsClient : AllowsAccounts (keepsClient : Contract (SessionRun ρ) _) :=
  fun _ _ _ _ => rfl

theorem keepsClient_runTransaction (tr : Transaction) :
    (runTransaction c carrier target tr).Meets keepsClient := by
  have hsend : (send c carrier target tr).Meets keepsClient := by
    unfold send
    split
    · exact .ofRun (fun _ => rfl) fun _ _ _ => trivial
    · exact .throw fun _ => trivial
  refine hsend.bind fun outcome => ?_
  cases outcome with
  | ok r => exact (meets_receive allowsAccounts_keepsClient tr r).bind fun _ => .pure _
  | error f =>
    dsimp only
    split
    · exact meets_recover allowsAccounts_keepsClient carrier target tr f
    · exact .throw fun _ => trivial

theorem keepsClient_runTransactions (c : RunContext ρ) (carrier : Carrier) (target : Endpoint)
    (ts : List Transaction) :
    (runTransactions c carrier target ts).Meets keepsClient := by
  induction ts with
  | nil => exact .pure _
  | cons tr ts ih =>
    refine (keepsClient_runTransaction tr).bind fun goesOn => ?_
    cases goesOn with
    | true => exact ih
    | false => exact .pure _

end SessionRun

open SessionRun

/-- Whatever comes of a session that has a carrier, its client is closed after it. -/
theorem client_runSession (hcarrier : Carrier.select c.settings.mode w.session = some carrier)
    (peer : ρ) : (runSession c w peer).2.client = .closed := by
  rcases hrun : (runTransactions c carrier w.target w.session.transactions).runOn
    (connected carrier w peer) with ⟨r, s⟩
  have hclient : s.client = (connected carrier w peer).client := by
    have hkeeps := (keepsClient_runTransactions c carrier w.target w.session.transactions
      (connected carrier w peer)).1
    rw [hrun] at hkeeps
    exact hkeeps
  rw [runSession_of_carrier hcarrier hrun, hclient]
  rfl

/-! ### Accounts of a session -/

/-- The accounts of a session are those of its exchanges. -/
theorem runSession_of_went {peer : ρ} {t : SessionRun ρ} {made : List Call} {run failed : Nat}
    (hcarrier : Carrier.select c.settings.mode w.session = some carrier)
    (hrun : (runTransactions c carrier w.target w.session.transactions).runOn
      (connected carrier w peer) = (.ok (), t))
    (hwent : (connected carrier w peer).Went t made run failed) :
    ∃ r s, runSession c w peer = (.ok r, s) ∧ s.calls = made ∧
      r.transactionsRun = run ∧ r.transactionsFailed = failed ∧
      r.outcome = if failed = 0 then .success else .failed := by
  refine ⟨_, _, runSession_of_carrier hcarrier hrun, ?_, ?_, ?_, ?_⟩
  · exact hwent.calls.trans (List.nil_append made)
  · exact hwent.transactionsRun.trans (Nat.zero_add run)
  · exact hwent.transactionsFailed.trans (Nat.zero_add failed)
  · rw [result, hwent.ok]
    simp [connected, Report.ok, startNote]

/-- A session that reaches its target in its first exchange, if there is one. -/
theorem runSession_of_reached {peer : ρ} {calls : List Call}
    (hcarrier : Carrier.select c.settings.mode w.session = some carrier)
    (hcalls : CallsFor c carrier w.target w.session.transactions calls)
    (hends : ∀ f, .error f ∈ c.peer.outcomes calls peer → f.endsExchange carrier = true)
    (hreached : ¬ (c.peer.outcomes calls peer).head?.any (isUnreached carrier) = true) :
    ∃ r s, runSession c w peer = (.ok r, s) ∧ s.calls = calls ∧
      r.transactionsRun = w.session.transactions.length ∧
      r.transactionsFailed =
        failures c.names w.session.transactions (c.peer.outcomes calls peer) ∧
      r.outcome = if failures c.names w.session.transactions (c.peer.outcomes calls peer) = 0
        then .success else .failed := by
  obtain ⟨t, hrun, hwent⟩ := @runTransactions_of_reached ρ c carrier w.target
    (connected carrier w peer) _ _ hcalls hends fun h => hreached h.2
  exact runSession_of_went hcarrier hrun hwent

/-- A session that does not reach its target in its first exchange. -/
theorem runSession_of_unreached {peer : ρ} {tr : Transaction} {ts : List Transaction}
    {call : Call} {f : Failure}
    (hcarrier : Carrier.select c.settings.mode w.session = some carrier)
    (hts : w.session.transactions = tr :: ts)
    (hcall : callFor carrier c.settings c.buffer w.target tr.request = .ok call)
    (houtcome : (c.peer call peer).1.outcome = .error f) (hends : f.endsExchange carrier = true)
    (hunreached : f.isUnreachable carrier = true) :
    ∃ r s, runSession c w peer = (.ok r, s) ∧ s.calls = [call] ∧ r.transactionsRun = 0 ∧
      r.transactionsFailed = 1 ∧ r.outcome = .failed := by
  obtain ⟨t, hrun, hwent⟩ := @runTransactions_of_unreached ρ c carrier w.target
    (connected carrier w peer) tr call ts f hcall houtcome hends ⟨rfl, hunreached⟩
  rw [← hts] at hrun
  exact runSession_of_went hcarrier hrun hwent

/-- **What comes of a session.** The client of a session is closed after it, whatever happens. If
the first exchange does not reach the target, its request is the only one that is sent, no
transaction counts as run, and one as failed. Otherwise, if every exchange comes to a response or to
a failure of an exchange, then the requests of all transactions are sent once, in order, and all of
them count as run; those count as failed that come to a failure or to a response that is not as
expected, and the session is a success exactly if there are none. -/
theorem runSession_of_outcomes {peer : ρ}
    (hcarrier : Carrier.select c.settings.mode w.session = some carrier) :
    (runSession c w peer).2.client = .closed ∧
    (∀ tr ts call f, w.session.transactions = tr :: ts →
      callFor carrier c.settings c.buffer w.target tr.request = .ok call →
      (c.peer call peer).1.outcome = .error f → f.endsExchange carrier = true →
      f.isUnreachable carrier = true →
      ∃ r run, runSession c w peer = (.ok r, run) ∧ run.calls = [call] ∧ r.transactionsRun = 0 ∧
        r.transactionsFailed = 1 ∧ r.outcome = .failed) ∧
    ∀ calls, CallsFor c carrier w.target w.session.transactions calls →
      (∀ f, .error f ∈ c.peer.outcomes calls peer → f.endsExchange carrier = true) →
      ¬ (c.peer.outcomes calls peer).head?.any (isUnreached carrier) = true →
      ∃ r run, runSession c w peer = (.ok r, run) ∧ run.calls = calls ∧
        r.transactionsRun = w.session.transactions.length ∧
        r.transactionsFailed =
          failures c.names w.session.transactions (c.peer.outcomes calls peer) ∧
        r.outcome = if r.transactionsFailed = 0 then .success else .failed := by
  refine ⟨client_runSession hcarrier peer, fun tr ts call f hts hcall houtcome hends hunreached =>
    runSession_of_unreached hcarrier hts hcall houtcome hends hunreached,
    fun calls hcalls hends hreached => ?_⟩
  obtain ⟨r, run, hsession, hmade, hran, hfailed, hresult⟩ :=
    runSession_of_reached hcarrier hcalls hends hreached
  exact ⟨r, run, hsession, hmade, hran, hfailed, by rw [hresult, hfailed]⟩

/-- A peer that gives some answers one after another, and then the same one to every call. -/
def scripted : RunContext (List Answer) :=
  ⟨.default, .empty, [], fun _ answers => (answers.headD ⟨0, .ok ⟨200, []⟩⟩, answers.tail)⟩

/-- A session over a protocol to the same machine, with transactions that expect a status. -/
def itemOver (protocol : Protocol) (statuses : List Int) : WorkItem where
  session := { Session.blank "f.yaml" 1 with
    protocol := protocol
    transactions := statuses.map fun status =>
      { Transaction.blank true with response := { Response.blank with status := some status } } }
  target := ⟨"127.0.0.1", 8443, "127.0.0.1"⟩

/-- A target that is not there. -/
def refused : Answer := ⟨0, .error ⟨.http1, .noConnection, "ConnectionError", "refused"⟩⟩

/-- A call that is not answered in time, a response that is not as expected, and a lost target. -/
def mishaps : List Answer :=
  [⟨0, .error ⟨.http1, .other, "ReadTimeout", "timed out"⟩⟩, ⟨0, .ok ⟨404, []⟩⟩, refused]

/-- A target that is not there ends the session at its first exchange, and not later. -/
theorem runSession_of_outcomes_mishaps :
    Carrier.select .client (itemOver .plain [200, 200, 200]).session = some .plain ∧
      (∃ r run, runSession scripted (itemOver .plain [200, 200, 200]) [refused] = (.ok r, run) ∧
        run.calls.length = 1 ∧ r.transactionsRun = 0 ∧ r.transactionsFailed = 1) ∧
      ∃ r run, runSession scripted (itemOver .plain [200, 200, 200]) mishaps = (.ok r, run) ∧
        run.client = .closed ∧ run.calls.length = 3 ∧ r.transactionsRun = 3 ∧
        r.transactionsFailed = 3 ∧ r.outcome = .failed := by
  have hcarrier : Carrier.select .client (itemOver .plain [200, 200, 200]).session =
      some .plain := rfl
  obtain ⟨call, hcall⟩ : ∃ call, callFor .plain scripted.settings scripted.buffer
      (itemOver .plain [200, 200, 200]).target .blank = .ok call := ⟨_, rfl⟩
  refine ⟨hcarrier, ?_, ?_⟩
  · obtain ⟨-, hunreached, -⟩ := @runSession_of_outcomes (List Answer) scripted .plain
      (itemOver .plain [200, 200, 200]) [refused] hcarrier
    obtain ⟨r, run, hrun, hcalls, hran, hfailed, -⟩ :=
      hunreached _ _ call _ rfl hcall rfl rfl rfl
    exact ⟨r, run, hrun, by rw [hcalls]; rfl, hran, hfailed⟩
  · obtain ⟨hclosed, -, hreached⟩ := @runSession_of_outcomes (List Answer) scripted .plain
      (itemOver .plain [200, 200, 200]) mishaps hcarrier
    have houtcomes : scripted.peer.outcomes [call, call, call] mishaps =
        mishaps.map Answer.outcome := rfl
    have hends : ∀ f, .error f ∈ scripted.peer.outcomes [call, call, call] mishaps →
        f.endsExchange .plain = true := by
      rw [houtcomes]
      simp [mishaps, refused, Failure.endsExchange]
    have hfirst : ¬ (scripted.peer.outcomes [call, call, call] mishaps).head?.any
        (isUnreached .plain) = true := by
      rw [houtcomes]
      decide
    obtain ⟨r, run, hrun, hcalls, hran, hfailed, houtcome⟩ := hreached [call, call, call]
      (.cons hcall (.cons hcall (.cons hcall .nil))) hends hfirst
    rw [houtcomes] at hfailed
    have hthree : r.transactionsFailed = 3 := hfailed.trans (by decide)
    rw [hrun] at hclosed
    rw [hthree] at houtcome
    exact ⟨r, run, hrun, hclosed, by rw [hcalls]; rfl, hran, hthree, houtcome⟩

/-! ### Sessions without a connection -/

/-- Whether a failure says that there was no connection: refused, or not made in time. -/
def Failure.isUnconnected (f : Failure) : Bool :=
  f.cause = .noConnection || f.cause = .connectTimeout

/-- Over HTTP/2 a connection that is not made in time does not count as a target that is not
reached. -/
theorem isUnreachable_of_isUnconnected {f : Failure} (h : f.isUnconnected = true)
    (carrier : Carrier) :
    f.isUnreachable carrier = !decide (carrier = .http2 ∧ f.cause = .connectTimeout) := by
  obtain ⟨origin, cause, kind, message⟩ := f
  cases carrier <;> cases cause <;> simp_all [Failure.isUnconnected, Failure.isUnreachable]

/-- **Sessions whose first exchange gets no connection.** Such a session ends at once, with no
transaction run, except over HTTP/2 if the connection was not made in time. Then it goes on: the
requests of all transactions are sent, and all of them count as run. -/
theorem runSession_of_unconnected {tr : Transaction} {ts : List Transaction} {call : Call}
    {f : Failure} {peer : ρ}
    (hcarrier : Carrier.select c.settings.mode w.session = some carrier)
    (hts : w.session.transactions = tr :: ts)
    (hcall : callFor carrier c.settings c.buffer w.target tr.request = .ok call)
    (houtcome : (c.peer call peer).1.outcome = .error f) (hends : f.endsExchange carrier = true)
    (hf : f.isUnconnected = true) :
    (¬ (carrier = .http2 ∧ f.cause = .connectTimeout) →
      ∃ r run, runSession c w peer = (.ok r, run) ∧ run.calls = [call] ∧ r.transactionsRun = 0 ∧
        r.transactionsFailed = 1 ∧ r.outcome = .failed) ∧
    (carrier = .http2 ∧ f.cause = .connectTimeout →
      ∀ calls, CallsFor c carrier w.target ts calls →
        (∀ g, .error g ∈ c.peer.outcomes calls (c.peer call peer).2 →
          g.endsExchange carrier = true) →
        ∃ r run, runSession c w peer = (.ok r, run) ∧ run.calls = call :: calls ∧
          r.transactionsRun = ts.length + 1 ∧ r.outcome = .failed) := by
  have hunreachable := isUnreachable_of_isUnconnected hf carrier
  constructor
  · intro hended
    have hunreached : f.isUnreachable carrier = true := by simpa [hended] using hunreachable
    exact runSession_of_unreached hcarrier hts hcall houtcome hends hunreached
  · intro hgoes calls hcalls hothers
    have hreached : f.isUnreachable carrier = false := by simpa [hgoes] using hunreachable
    have houtcomes : c.peer.outcomes (call :: calls) peer =
        .error f :: c.peer.outcomes calls (c.peer call peer).2 := by
      rw [Peer.outcomes, houtcome]
    have hall : CallsFor c carrier w.target w.session.transactions (call :: calls) :=
      hts ▸ .cons hcall hcalls
    obtain ⟨r, s, hsession, hmade, hran, -, hresult⟩ := @runSession_of_reached ρ c carrier w peer _
      hcarrier hall
      (by
        intro g hg
        rw [houtcomes] at hg
        rcases List.mem_cons.1 hg with hg | hg
        · cases hg
          exact hends
        · exact hothers g hg)
      (by simp [houtcomes, isUnreached, hreached])
    rw [hts, houtcomes, failures_cons] at hresult
    rw [hts] at hran
    exact ⟨r, s, hsession, hmade, hran, hresult.trans (if_neg (by simp [isRaised]))⟩

/-- A connection that is not made in time. -/
def tooLate (origin : FailureOrigin) : Answer :=
  ⟨0, .error ⟨origin, .connectTimeout, "ConnectTimeout", "timed out"⟩⟩

/-- Over HTTP/1 such a session ends at once, and over HTTP/2 it goes on. -/
theorem runSession_of_unconnected_tooLate :
    (∃ r run, runSession scripted (itemOver .plain [200, 200]) (.replicate 2 (tooLate .http1)) =
      (.ok r, run) ∧ run.calls.length = 1 ∧ r.transactionsRun = 0) ∧
    ∃ r run, runSession scripted (itemOver .http2 [200, 200]) (.replicate 2 (tooLate .http2)) =
      (.ok r, run) ∧ run.calls.length = 2 ∧ r.transactionsRun = 2 := by
  constructor
  · have hends := (@runSession_of_unconnected (List Answer) scripted .plain
      (itemOver .plain [200, 200]) _ _ _ _ (.replicate 2 (tooLate .http1)) rfl rfl rfl rfl rfl
      rfl).1
    obtain ⟨r, run, hrun, hcalls, hran, -⟩ := hends (by decide)
    exact ⟨r, run, hrun, by rw [hcalls]; rfl, hran⟩
  · have hgoes := (@runSession_of_unconnected (List Answer) scripted .http2
      (itemOver .http2 [200, 200]) _ _ _ _ (.replicate 2 (tooLate .http2)) rfl rfl rfl rfl rfl
      rfl).2
    obtain ⟨r, run, hrun, hcalls, hran, -⟩ := hgoes (by decide) [_] (.cons rfl .nil) fun g hg => by
      cases List.mem_singleton.1 (show .error g ∈ [(tooLate .http2).outcome] from hg)
      rfl
    exact ⟨r, run, hrun, by rw [hcalls]; rfl, hran⟩

/-- Not every session without a connection ends at once. -/
theorem goes_on_unconnected :
    ¬ ∀ (w : WorkItem) (answers : List Answer) (carrier : Carrier) (a : Answer) (f : Failure),
      Carrier.select .client w.session = some carrier → answers.head? = some a →
        a.outcome = .error f → f.endsExchange carrier = true → f.isUnconnected = true →
        (runSession scripted w answers).2.calls.length ≤ 1 := by
  intro h
  have hle := h (itemOver .http2 [200, 200]) (.replicate 2 (tooLate .http2)) _ _ _ rfl rfl rfl rfl
    rfl
  exact absurd hle (by decide)

end TrafficReplay
