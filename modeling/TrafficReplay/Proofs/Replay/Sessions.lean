import TrafficReplay.Proofs.Contract
import TrafficReplay.Proofs.Traffic.Preparing
import TrafficReplay.Replay.Run

/-!
# Sessions that come to an end

The replay of a session is stopped by a body that cannot be made, or by a failure that is none of an
exchange.  With a buffer that is long enough and a peer that fails in exchanges only, every session
comes to an outcome, and it is skipped exactly if there is no carrier for it.

* `Peer.Orderly`: peers that fail in exchanges only;
* `runSession_ends`: what comes of a session then;
* `Tally.Counts`: tallies that count some sessions.
-/

namespace TrafficReplay

variable {ρ : Type} {good : ρ → Prop} {c : RunContext ρ}

/-! ### Calls that can be made -/

/-- A carrier of the family that a call goes over; only calls over HTTP/1 have options. -/
def Call.carrier (call : Call) : Carrier := if call.options.isSome then .plain else .http2

/-- From a good state on, a peer answers every call with a response or with a failure that ends the
exchange. -/
structure Peer.Orderly (peer : Peer ρ) (good : ρ → Prop) : Prop where
  stays : ∀ call s, good s → good (peer call s).2
  ends : ∀ call s f, good s → (peer call s).1.outcome = .error f →
    f.endsExchange call.carrier = true

theorem Body.cutFrom_of_le {buffer : Body} {size : Int} (h : size ≤ buffer.length) :
    buffer.cutFrom size = .ok (buffer.upTo size) := if_pos h

theorem callFor_ok {carrier : Carrier} {settings : Settings} {buffer : Body} {target : Endpoint}
    {r : Request} (h : r.contentSize ≤ buffer.length) :
    ∃ call, callFor carrier settings buffer target r = .ok call ∧
      call.options = carrier.options settings := by
  have hbody : ∃ body, r.body buffer = .ok body := by
    unfold Request.body
    split
    · exact ⟨_, rfl⟩
    · split
      · exact ⟨_, rfl⟩
      · exact ⟨_, by rw [Body.cutFrom_of_le h]; rfl⟩
  obtain ⟨body, hbody⟩ := hbody
  rw [callFor, hbody]
  exact ⟨_, rfl, rfl⟩

/-- Whether a failure ends an exchange can be told from the call. -/
theorem endsExchange_carrier {call : Call} {carrier : Carrier} {settings : Settings}
    (h : call.options = carrier.options settings) (f : Failure) :
    f.endsExchange call.carrier = f.endsExchange carrier := by
  unfold Call.carrier
  rw [h]
  cases carrier <;> rfl

/-! ### The run of a session -/

namespace SessionRun

/-- The contract of a step that leaves the peer in a good state and is not stopped. -/
def orderly (good : ρ → Prop) : Contract (SessionRun ρ) RunFault where
  change s t := good s.peer → good t.peer
  fault s _ := ¬ good s.peer
  refl _ := id
  trans hst htu := htu ∘ hst
  fault_of_change hst he hs := he (hst hs)

/-- That a contract lets a step count transactions and report as it will. -/
def AllowsAccounts (d : Contract (SessionRun ρ) RunFault) : Prop :=
  ∀ (s : SessionRun ρ) (transactionsRun transactionsFailed : Nat) (report : Report),
    d.change s { s with transactionsRun, transactionsFailed, report }

theorem allowsAccounts_orderly : AllowsAccounts (orderly good) := fun _ _ _ _ => id

theorem runOn_tell (r : Report) (s : SessionRun ρ) :
    (tell r).runOn s = (.ok (), { s with report := s.report ++ r }) := rfl

/-- The note on the start of a work item. -/
def startNote (w : WorkItem) : Note :=
  ⟨.diag, "Starting session " ++ w.session.location ++ " protocol=" ++ w.session.protocol.name ++
    "."⟩

/-- The run of a session whose client was made for a carrier, before the first exchange. -/
def connected (carrier : Carrier) (w : WorkItem) (peer : ρ) : SessionRun ρ :=
  { start peer with
    client := .opened
    report := [startNote w,
      ⟨.diag, "Connecting via " ++ carrier.description ++ " to " ++ w.target.netloc ++ "."⟩] }

theorem runOn_thenClose {α : Type} (x : OnSession ρ α) (s : SessionRun ρ) :
    (thenClose x).runOn s =
      ((x.runOn s).1, { (x.runOn s).2 with client := (x.runOn s).2.client.close }) := rfl

theorem runOn_connected (carrier : Carrier) (w : WorkItem) (peer : ρ) (x : OnSession ρ Unit) :
    Step.runOn (do
        connect carrier w.target
        if (← get).report.ok then x) { start peer with report := [startNote w] } =
      x.runOn (connected carrier w peer) := rfl

/-- Whatever comes of the exchanges of a session, its client is closed after them. -/
theorem runOn_closing (carrier : Carrier) (w : WorkItem) (peer : ρ) (x : OnSession ρ Unit) :
    Step.runOn (do
        thenClose do
          connect carrier w.target
          if (← get).report.ok then x
        return (← get).result) { start peer with report := [startNote w] } =
      match x.runOn (connected carrier w peer) with
      | (r, s) => (r.map fun _ => s.result, { s with client := s.client.close }) := by
  rw [Step.runOn_bind, runOn_thenClose, runOn_connected]
  rcases x.runOn (connected carrier w peer) with ⟨_ | _, s⟩ <;> rfl

/-- The run of a session is that of its transactions, and the client is closed after it. -/
theorem runSession_of_carrier {carrier : Carrier} {w : WorkItem} {peer : ρ}
    (hcarrier : Carrier.select c.settings.mode w.session = some carrier)
    {r : Except RunFault Unit} {s : SessionRun ρ}
    (hrun : (runTransactions c carrier w.target w.session.transactions).runOn
      (connected carrier w peer) = (r, s)) :
    runSession c w peer = (r.map fun _ => s.result, { s with client := s.client.close }) := by
  unfold runSession runItem
  dsimp only
  rw [Step.runOn_bind_of_ok (runOn_tell _ _), hcarrier]
  refine (runOn_closing carrier w peer _).trans ?_
  rw [hrun]

/-- Without a carrier a session is skipped, and nothing is done for it. -/
theorem runSession_of_no_carrier {w : WorkItem}
    (hcarrier : Carrier.select c.settings.mode w.session = none) (peer : ρ) :
    ∃ report, runSession c w peer =
      (.ok ⟨.skipped, 0, 0, report⟩, { start peer with report := report }) := by
  unfold runSession runItem
  dsimp only
  rw [Step.runOn_bind_of_ok (runOn_tell _ _), hcarrier]
  exact ⟨_, rfl⟩

section

variable {d : Contract (SessionRun ρ) RunFault} (hd : AllowsAccounts d)
include hd

theorem meets_tell (r : Report) : (tell r : OnSession ρ Unit).Meets d :=
  .modify fun s => hd s _ _ _

theorem meets_countRun : (countRun : OnSession ρ Unit).Meets d :=
  .modify fun s => hd s _ _ _

theorem meets_countFailed : (countFailed : OnSession ρ Unit).Meets d :=
  .modify fun s => hd s _ _ _

theorem meets_receive (t : Transaction) (r : Received) : (receive c t r).Meets d := by
  refine (meets_countRun hd).bind fun _ => ?_
  dsimp only
  split
  · exact (meets_countFailed hd).bind fun _ => meets_tell hd _
  · exact meets_tell hd _

theorem meets_recover (carrier : Carrier) (target : Endpoint) (t : Transaction) (f : Failure) :
    (recover carrier target t f : OnSession ρ Bool).Meets d := by
  refine (meets_countFailed hd).bind fun _ => .look fun s => ?_
  split
  · exact (meets_tell hd _).bind fun _ => .pure _
  · exact (meets_tell hd _).bind fun _ => (meets_countRun hd).bind fun _ => .pure _

end

/-- A run after a call. -/
def sent (c : RunContext ρ) (call : Call) (s : SessionRun ρ) : SessionRun ρ :=
  { s with
    peer := (c.peer call s.peer).2
    calls := s.calls ++ [call]
    elapsed := s.elapsed + (c.peer call s.peer).1.delay }

/-- A transaction whose call can be made goes on with the outcome of the exchange. -/
theorem runOn_runTransaction {carrier : Carrier} {target : Endpoint} {t : Transaction} {call : Call}
    (hcall : callFor carrier c.settings c.buffer target t.request = .ok call) (s : SessionRun ρ) :
    (runTransaction c carrier target t).runOn s =
      Step.runOn
        (match (c.peer call s.peer).1.outcome with
          | .ok r => do
            receive c t r
            return true
          | .error f =>
            if f.endsExchange carrier then recover carrier target t f else throw (.failure f))
        (s.sent c call) := by
  have hexchange : (exchange c call).runOn s =
      (.ok (c.peer call s.peer).1.outcome, s.sent c call) := rfl
  unfold runTransaction send
  rw [hcall]
  exact Step.runOn_bind_of_ok hexchange

theorem meets_runTransaction (hpeer : c.peer.Orderly good) (carrier : Carrier)
    (target : Endpoint) {t : Transaction} (ht : t.request.contentSize ≤ c.buffer.length) :
    (runTransaction c carrier target t).Meets (orderly good) := by
  obtain ⟨call, hcall, hoptions⟩ :=
    @callFor_ok carrier c.settings c.buffer target t.request ht
  intro s
  by_cases hs : good s.peer
  · have hstays : good (s.sent c call).peer := hpeer.stays call s.peer hs
    -- What is done with the outcome begins with a peer that is still good.
    have hrest {x : OnSession ρ Bool} (hx : x.Meets (orderly good)) :
        (orderly good).change s (x.runOn (s.sent c call)).2 ∧
          ∀ e, (x.runOn (s.sent c call)).1 = .error e → (orderly good).fault s e :=
      ⟨fun _ => (hx _).1 hstays, fun e he => absurd hstays ((hx _).2 e he)⟩
    rw [runOn_runTransaction hcall]
    cases houtcome : (c.peer call s.peer).1.outcome with
    | ok r => exact hrest ((meets_receive allowsAccounts_orderly t r).bind fun _ => .pure _)
    | error f =>
      have hends := hpeer.ends call s.peer f hs houtcome
      rw [endsExchange_carrier hoptions] at hends
      simp only [hends, if_true]
      exact hrest (meets_recover allowsAccounts_orderly carrier target t f)
  · exact ⟨fun h => absurd h hs, fun _ _ => hs⟩

theorem meets_runTransactions (hpeer : c.peer.Orderly good) (carrier : Carrier)
    (target : Endpoint) {ts : List Transaction}
    (hts : ∀ t ∈ ts, t.request.contentSize ≤ c.buffer.length) :
    (runTransactions c carrier target ts).Meets (orderly good) := by
  induction ts with
  | nil => exact .pure _
  | cons t ts ih =>
    obtain ⟨ht, hts⟩ := List.forall_mem_cons.1 hts
    refine (meets_runTransaction hpeer carrier target ht).bind fun goesOn => ?_
    cases goesOn with
    | true => exact ih hts
    | false => exact .pure _

end SessionRun

/-! ### Outcomes -/

open SessionRun

/-- Whether a session is left out because there is no carrier for it. -/
def Session.isLeftOut (mode : RunMode) (ssn : Session) : Bool := (Carrier.select mode ssn).isNone

theorem isLeftOut_client (ssn : Session) : ssn.isLeftOut .client = false := by
  unfold Session.isLeftOut Carrier.select
  cases ssn.protocol <;> rfl

theorem isLeftOut_noProxy (ssn : Session) :
    ssn.isLeftOut .noProxy = decide (ssn.protocol = .http2) := by
  unfold Session.isLeftOut Carrier.select
  cases ssn.protocol <;> rfl

theorem outcome_result_ne (s : SessionRun ρ) : s.result.outcome ≠ .skipped := by
  unfold result
  dsimp only
  split <;> nofun

/-- With bodies that can be cut and a peer that fails in exchanges only, a session comes to an
outcome, and it is skipped exactly if it is left out. -/
theorem runSession_ends (hpeer : c.peer.Orderly good) {w : WorkItem}
    (hw : w.session.Fits c.buffer) {peer : ρ} (hgood : good peer) :
    ∃ r run, runSession c w peer = (.ok r, run) ∧ good run.peer ∧
      (r.outcome = .skipped ↔ w.session.isLeftOut c.settings.mode = true) := by
  unfold Session.isLeftOut
  cases hcarrier : Carrier.select c.settings.mode w.session with
  | none =>
    obtain ⟨report, hskipped⟩ := runSession_of_no_carrier hcarrier peer
    exact ⟨_, _, hskipped, hgood, by simp⟩
  | some carrier =>
    have hstart : good (connected carrier w peer).peer := hgood
    obtain ⟨hchange, hfault⟩ :=
      meets_runTransactions hpeer carrier w.target hw (connected carrier w peer)
    rcases hrun : (runTransactions c carrier w.target w.session.transactions).runOn
      (connected carrier w peer) with ⟨_ | u, t⟩
    · rw [hrun] at hfault
      exact absurd hstart (hfault _ rfl)
    · rw [hrun] at hchange
      refine ⟨_, _, runSession_of_carrier hcarrier hrun, hchange hstart, ?_⟩
      exact iff_of_false (outcome_result_ne t) nofun

/-! ### Tallies of sessions -/

/-- That a tally counts each of some sessions once, those without a carrier as skipped. -/
structure Tally.Counts (mode : RunMode) (t : Tally) (l : List Session) : Prop where
  outcomes : t.succeeded + t.failed + t.skipped = l.length
  skipped : t.skipped = l.countP (·.isLeftOut mode)

theorem Tally.Counts.add {mode : RunMode} {t : Tally} {l : List Session} {ssn : Session}
    {r : SessionResult} (h : t.Counts mode l)
    (hr : r.outcome = .skipped ↔ ssn.isLeftOut mode = true) :
    (t.add r).Counts mode (l ++ [ssn]) := by
  obtain ⟨houtcomes, hskipped⟩ := h
  unfold Tally.add
  dsimp only
  cases houtcome : r.outcome with
  | success | failed =>
    have hkept : ssn.isLeftOut mode = false := by
      rw [houtcome] at hr
      exact Bool.eq_false_iff.2 fun hleft => nomatch hr.2 hleft
    constructor
    · simp only [List.length_append, List.length_singleton]
      omega
    · simp [hskipped, hkept]
  | skipped =>
    have hleft : ssn.isLeftOut mode = true := hr.1 houtcome
    constructor
    · simp only [List.length_append, List.length_singleton]
      omega
    · simp [hskipped, hleft]

/-- The order of the sessions does not matter. -/
theorem Tally.Counts.perm {mode : RunMode} {t : Tally} {l l' : List Session} (h : t.Counts mode l)
    (hl : l.Perm l') : t.Counts mode l' where
  outcomes := h.outcomes.trans hl.length_eq
  skipped := h.skipped.trans (hl.countP_eq _)

end TrafficReplay
