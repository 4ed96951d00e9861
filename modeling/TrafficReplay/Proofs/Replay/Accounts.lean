import TrafficReplay.Program
import TrafficReplay.Proofs.Replay.Shifts
import TrafficReplay.Proofs.Replay.Summary

/-!
# The accounts of a replay

Every session of a prepared run is handed to a worker as often as planned, comes to one outcome each
time, and is counted once by the dispatcher and once by the tally.  That holds for the crew of the
program and for a pool whose workers take their turns in any order.  The peer may remember what it
likes, so its answers in a session may depend on all that was done before in others.

* `Crew.Ran`, `Crew.serve`: a crew whose sessions all come to an outcome;
* `Program.Accounts`, `Program.Balanced`: the totals of a replay;
* `Program.Shows`: a performance that ends with telling and saving them;
* `Program.accounts_replay`: every replay is balanced, its totals are those that the program comes
  to, and the program shows them and ends with status 0.
-/

namespace TrafficReplay

variable {ρ : Type} {good : ρ → Prop}

/-! ### The crew -/

/-- A crew with a worker at hand that has run some sessions. -/
structure Crew.Ran (mode : RunMode) (good : ρ → Prop) (c : Crew ρ) (l : List Session) : Prop where
  queue : c.queue ≠ []
  peer : good c.peer
  tally : c.tally.Counts mode l

namespace Crew

theorem first?_ne_none {qs : List Queued} (h : qs ≠ []) : first? qs ≠ none := by
  cases qs with
  | nil => exact absurd rfl h
  | cons q qs =>
    unfold first?
    split <;> nofun

theorem ran_ofSize {mode : RunMode} {size : Nat} {clock : Clock} {readings : List Binary64}
    {peer : ρ} (hsize : 0 < size) (hpeer : good peer) :
    (ofSize size clock readings peer).Ran mode good [] where
  queue := by
    have hrange : List.range size ≠ [] := by
      rw [ne_eq, List.range_eq_nil]
      omega
    simpa [ofSize] using hrange
  peer := hpeer
  tally := ⟨rfl, rfl⟩

theorem ran_stopwatch {context : RunContext ρ} {mode : RunMode} {c : Crew ρ} {l : List Session}
    (h : c.Ran mode good l) : ((surroundings context).stopwatch c).2.Ran mode good l := by
  unfold surroundings
  dsimp only
  split
  · exact h
  · exact { h with }

/-- Without a timeout no worker is wanting, and every session comes to an outcome. -/
theorem serve {context : RunContext ρ} (hpeer : context.peer.Orderly good) :
    (surroundings context).Serve none (Session.Fits context.buffer)
      (Crew.Ran context.settings.mode good) (Crew.Ran context.settings.mode good) where
  now h := { h with }
  sleep d h := { h with }
  hand := by
    intro c l h
    obtain ⟨q, hq⟩ := Option.ne_none_iff_exists'.1 (first?_ne_none h.queue)
    refine ⟨_, by simp only [surroundings, take, Pool.isNegative, hq, within]; rfl, fun w hw => ?_⟩
    obtain ⟨r, run, hrun, hgood, hskipped⟩ := runSession_ends hpeer hw h.peer
    simp only [surroundings, assign, hrun, record]
    exact ⟨by simp, hgood, h.tally.add hskipped⟩
  finish h := h
  stopwatch := ran_stopwatch
  stopwatch_ended := ran_stopwatch

end Crew

/-! ### The program -/

/-- A configuration with workers, passes and targets, and without a timeout. -/
structure ReplayConfig.Startable (config : ReplayConfig) : Prop where
  threads : 1 ≤ config.threads
  repetitions : 1 ≤ config.repetitions
  http : config.httpTargets ≠ []
  https : config.httpsTargets ≠ []
  patient : config.workerTimeout = none

namespace Program

/-- What a replay of some sessions has to report. -/
structure Accounts (config : ReplayConfig) (ssns : List Session) (stats : ReplayStats)
    (tally : Tally) : Prop where
  sessions : stats.sessions = config.repetitions * ssns.length
  transactions : stats.transactions = config.repetitions * RunState.transactionCount ssns
  repetitions : stats.repetitions = config.repetitions
  complete : stats.aborted = false
  outcomes : (tally.succeeded + tally.failed + tally.skipped : Int) = stats.sessions
  skipped_noProxy : config.settings.mode = .noProxy →
    (tally.skipped : Int) = config.repetitions * ssns.countP (·.protocol = .http2)
  skipped_client : config.settings.mode = .client → tally.skipped = 0

theorem rotation_ok {config : ReplayConfig} (h : config.Startable) :
    ∃ rotation, Rotation.ofLists config.httpTargets config.httpsTargets = .ok rotation := by
  obtain ⟨x, xs, hx⟩ := List.exists_cons_of_ne_nil h.http
  obtain ⟨y, ys, hy⟩ := List.exists_cons_of_ne_nil h.https
  rw [hx, hy]
  exact ⟨_, rfl⟩

theorem plan_ok {config : ReplayConfig} (h : config.Startable) :
    ∃ plan, Plan.make config.repetitions config.sleepLimit config.workerTimeout = .ok plan ∧
      plan.repetitions = config.repetitions.toNat ∧ plan.workerTimeout = none := by
  have hpositive : ¬ config.repetitions < 1 := by
    have := h.repetitions
    omega
  rw [Plan.make, if_neg hpositive]
  exact ⟨_, rfl, rfl, h.patient⟩

/-- The accounts of a dispatch that has handed out a batch as often as planned. -/
theorem accounts_of_handed {σ : Type} {config : ReplayConfig} (h : config.Startable)
    {ended : σ → List Session → Prop} {tally : σ → Tally}
    (htally : ∀ s l, ended s l → (tally s).Counts config.settings.mode l) {ssns : List Session}
    {d : Dispatch σ}
    (hd : d.Handed ended (passes config.repetitions.toNat ssns) config.repetitions.toNat) :
    Accounts config ssns d.stats (tally d.outside) := by
  have hcast : (config.repetitions.toNat : Int) = config.repetitions := by
    have := h.repetitions
    omega
  obtain ⟨houtcomes, hskipped⟩ := htally _ _ hd.outside
  exact
    { sessions := by rw [hd.sessions, length_passes, Int.natCast_mul, hcast]
      transactions := by
        rw [hd.transactions, transactionCount_passes, Int.natCast_mul, hcast]
      repetitions := by rw [hd.repetitions, hcast]
      complete := hd.aborted
      outcomes := by
        rw [hd.sessions, ← houtcomes]
        omega
      skipped_noProxy := by
        intro hmode
        rw [hskipped, countP_passes, Int.natCast_mul, hcast, hmode]
        simp only [isLeftOut_noProxy]
      skipped_client := by
        intro hmode
        rw [hskipped, countP_passes, hmode]
        simp [isLeftOut_client] }

/-- The totals of a replay can be told if there are not too many transactions. -/
theorem Accounts.natAbs_lt {config : ReplayConfig} {ssns : List Session} {stats : ReplayStats}
    {tally : Tally} (h : config.Startable) (hd : Accounts config ssns stats tally)
    (hfew : config.repetitions * RunState.transactionCount ssns < 2 ^ 1023) :
    stats.transactions.natAbs < 2 ^ 1023 := by
  rw [hd.transactions]
  have hnonneg : 0 ≤ config.repetitions * (RunState.transactionCount ssns : Int) :=
    Int.mul_nonneg (by have := h.repetitions; omega) (Int.natCast_nonneg _)
  omega

/-- A replay of some sessions that gives the right accounts, reports no error and comes to an end;
the one thing that can keep it from that is a number of transactions without a floating point
number next to it. -/
structure Balanced {σ : Type} (config : ReplayConfig) (ssns : List Session) (tally : σ → Tally)
    (out : Except DispatchFault Unit × Dispatch σ) : Prop where
  accounts : Accounts config ssns out.2.stats (tally out.2.outside)
  report : out.2.report.ok = true
  ends : out.1 = .ok () ∨ 2 ^ 1023 ≤ config.repetitions * RunState.transactionCount ssns

/-- A replay among surroundings whose workers are never wanting is balanced. -/
theorem balanced_replay {σ : Type} {config : ReplayConfig} (h : config.Startable)
    {e : Surroundings σ} {plan : Plan} {q : Quantity} {fit : Session → Prop}
    {holds ended : σ → List Session → Prop} {tally : σ → Tally}
    (he : e.Serve plan.workerTimeout fit holds ended)
    (htally : ∀ s l, ended s l → (tally s).Counts config.settings.mode l)
    (hrepetitions : plan.repetitions = config.repetitions.toNat) {s : σ} (hs : holds s [])
    {ssns : List Session} (hdue : ∀ ssn ∈ ssns, q.Paces ssn) (hfit : ∀ ssn ∈ ssns, fit ssn)
    (rotation : Rotation) :
    let out := (replay e plan q ssns).runOn (.start s rotation)
    Balanced config ssns tally out ∧
      ended out.2.outside (passes config.repetitions.toNat ssns) := by
  obtain ⟨d, hd, hrun⟩ := handed_replay he hs hdue hfit rotation
  rw [hrepetitions] at hd
  have haccounts := accounts_of_handed h htally hd
  cases hsummary : d.stats.summary with
  | ok summary =>
    rw [hsummary] at hrun
    simp only [hrun]
    exact ⟨⟨haccounts, rfl, .inl rfl⟩, hd.outside⟩
  | error f =>
    rw [hsummary] at hrun
    simp only [hrun]
    refine ⟨⟨haccounts, by rw [hd.report]; rfl, .inr (Int.not_lt.1 fun hfew => ?_)⟩, hd.outside⟩
    obtain ⟨summary, hok⟩ := ReplayStats.summary_ok (haccounts.natAbs_lt h hfew)
    rw [hsummary] at hok
    cases hok

/-! ### The program comes to an end -/

/-- That a step of the program ends with a result, whatever was performed before. -/
def Ends {α : Type} (x : OnProgram α) (a : α) : Prop := ∀ p, ∃ p', x.runOn p = (.ok a, p')

variable {α β : Type} {x : OnProgram α} {f : α → OnProgram β} {a : α} {b : β}

theorem ends_pure (a : α) : Ends (pure a) a := fun p => ⟨p, rfl⟩

theorem ends_modify (g : Performance → Performance) : Ends (modify g) ⟨⟩ := fun p => ⟨g p, rfl⟩

theorem Ends.bind (hx : Ends x a) (hf : Ends (f a) b) : Ends (x >>= f) b := by
  intro p
  obtain ⟨p₁, hx⟩ := hx p
  obtain ⟨p₂, hf⟩ := hf p₁
  exact ⟨p₂, (Step.runOn_bind_of_ok hx).trans hf⟩

theorem runOn_orBreak {ε : Type} (fault : ε → ProgramFault) (x : Except ε α) (p : Performance) :
    (orBreak fault x).runOn p = (x.mapError fault, p) := by
  cases x <;> rfl

theorem runOn_orBreak_of_ok {ε : Type} {fault : ε → ProgramFault} {x : Except ε α} (h : x = .ok a)
    (p : Performance) : (orBreak fault x).runOn p = (.ok a, p) := by
  rw [runOn_orBreak, h]
  rfl

theorem ends_orBreak_iff {ε : Type} {fault : ε → ProgramFault} {x : Except ε α} :
    Ends (orBreak fault x) a ↔ x = .ok a := by
  constructor
  · intro h
    obtain ⟨p, h⟩ := h .nothing
    rw [runOn_orBreak] at h
    cases x with
    | ok b =>
      cases h
      rfl
    | error e => cases h
  · intro h p
    exact ⟨p, runOn_orBreak_of_ok h p⟩

variable {world : World ρ} {config : ReplayConfig} {loaded run : RunState} {info : BatchInfo}

/-- The sessions of a prepared run can all be sent. -/
theorem fits_prepare (h : Ends (prepare loaded) (info, run)) :
    ∀ ssn ∈ run.sessions, ssn.Fits run.buffer := by
  have hstep := ends_orBreak_iff.1 h
  dsimp only at hstep
  rcases hprepare : RunState.prepare.runOn loaded with ⟨f | info', s⟩
  · rw [Step.runOn_bind_of_error hprepare] at hstep
    cases hstep
  · rw [Step.runOn_bind_of_ok hprepare] at hstep
    rcases hfreeze : RunState.freeze.runOn s with ⟨f | u, s'⟩
    · rw [Step.runOn_bind_of_error hfreeze] at hstep
      cases hstep
    · rw [Step.runOn_bind_of_ok hfreeze] at hstep
      cases hstep
      obtain ⟨-, -, rfl⟩ := RunState.freeze_eq_ok_iff.1 hfreeze
      -- Neither the sessions nor the buffer change when the run is frozen.
      have hfits := RunState.fits_prepare hprepare
      exact hfits

/-- The replay of a run with a rotation of targets, by a plan. -/
def replayed (world : World ρ) (config : ReplayConfig) (run : RunState) (rotation : Rotation)
    (plan : Plan) (q : Quantity) : Except DispatchFault Unit × Dispatch (Crew ρ) :=
  (replay (Crew.surroundings (run.context config.settings world.peer)) plan q run.sessions).runOn
    (.start (Crew.ofSize config.threads.toNat world.clock world.readings world.memory) rotation)

/-- The same replay on a pool whose workers take some turns. -/
def replayedOnPool (world : World ρ) (config : ReplayConfig) (run : RunState) (rotation : Rotation)
    (plan : Plan) (turns : List (List Pool.Turn)) (q : Quantity) :
    Except DispatchFault Unit × Dispatch (Shift ρ) :=
  let pool := (Pool.ofSize config.threads.toNat).start
  (replay (Shift.surroundings (run.context config.settings world.peer)) plan q run.sessions).runOn
    (.start (Shift.ofPool pool turns world.clock world.readings world.memory) rotation)

/-- A dispatch of all sessions ends with the totals of the replay. -/
theorem ends_dispatchAll (h : config.Startable) {m : Binary64} {rotation : Rotation} {plan : Plan}
    (hrotation : Rotation.ofLists config.httpTargets config.httpsTargets = .ok rotation)
    (hplan : Plan.make config.repetitions config.sleepLimit config.workerTimeout = .ok plan)
    {d : Dispatch (Crew ρ)}
    (hd : replayed world config run rotation plan (.real m) = (.ok (), d)) :
    Ends (dispatchAll world config run m) ⟨d.stats, d.outside.tally, d.report.ok⟩ := by
  have hpool : ∃ pool, Pool.make config.threads true = .ok pool := by
    have hthreads : ¬ config.threads < 1 := by
      have := h.threads
      omega
    exact ⟨_, by rw [Pool.make, if_neg hthreads]; rfl⟩
  obtain ⟨pool, hpool⟩ := hpool
  refine (ends_orBreak_iff.2 hpool).bind ?_
  refine (ends_modify _).bind ?_
  refine (ends_orBreak_iff.2 hrotation).bind ?_
  refine (ends_orBreak_iff.2 hplan).bind ?_
  dsimp only
  unfold replayed at hd
  rw [hd]
  refine (ends_modify _).bind ?_
  refine (ends_orBreak_iff.2 rfl).bind ?_
  exact (ends_modify _).bind (ends_pure _)

theorem ends_replayAll (hprepared : Ends (prepare loaded) (info, run)) {m : Binary64}
    (hmultiplier : Ends (multiplier config info) m) {r : Replayed}
    (hdispatch : Ends (dispatchAll world config run m) r) :
    Ends (replayAll world config loaded) r :=
  hprepared.bind ((ends_modify _).bind (hmultiplier.bind hdispatch))

/-! ### The program shows what came of the replay -/

/-- That a step of the program ends with a result and with a performance of a kind, whatever was
performed before. -/
def EndsWith {α : Type} (x : OnProgram α) (a : α) (kind : Performance → Prop) : Prop :=
  ∀ p, ∃ p', x.runOn p = (.ok a, p') ∧ kind p'

theorem Ends.bindWith {kind : Performance → Prop} (hx : Ends x a) (hf : EndsWith (f a) b kind) :
    EndsWith (x >>= f) b kind := by
  intro p
  obtain ⟨p₁, hx⟩ := hx p
  obtain ⟨p₂, hf, hkind⟩ := hf p₁
  exact ⟨p₂, (Step.runOn_bind_of_ok hx).trans hf, hkind⟩

/-- Lines as they are printed. -/
def printed (lines : List String) : String := String.join (lines.map fun l => l ++ "\n")

theorem printed_append (l₁ l₂ : List String) : printed (l₁ ++ l₂) = printed l₁ ++ printed l₂ := by
  rw [printed, List.map_append, String.join_append]
  rfl

theorem runOn_print (lines : List String) (p : Performance) :
    (print lines).runOn p = (.ok (), { p with stdout := p.stdout ++ printed lines }) := rfl

/-- The lines that tell the totals of a replay and the outcomes of its sessions. -/
def toldLines (summary : String) (tally : Tally) : List String :=
  ["",
   "📊 Replay Summary:",
   "   " ++ summary,
   "   Sessions succeeded: " ++ toString tally.succeeded,
   "   Sessions failed: " ++ toString tally.failed,
   "   Sessions skipped: " ++ toString tally.skipped]

/-- A performance that shows what came of a replay: the last lines of its output tell it, and the
file that is asked for holds it. -/
structure Shows (output : Option String) (r : Replayed) (p : Performance) : Prop where
  told : ∃ before summary, r.stats.summary = .ok summary ∧
    p.stdout = before ++ printed (toldLines summary r.tally ++
      ((output.filter fun path => !path.isEmpty).map fun path =>
        "✅ Saved replay results to " ++ path).toList)
  saved : ∀ path ∈ output, path.isEmpty = false →
    ∃ rounded, r.stats.rounded = .ok rounded ∧
      p.saved = some (FilePath.ofText path, ⟨rounded, r.tally⟩)

theorem runOn_summarize {r : Replayed} {summary : String} (h : r.stats.summary = .ok summary)
    (p : Performance) :
    (summarize r).runOn p =
      (.ok (), { p with stdout := p.stdout ++ printed (toldLines summary r.tally) }) :=
  (Step.runOn_bind_of_ok (runOn_orBreak_of_ok h p)).trans
    (runOn_print (toldLines summary r.tally) p)

theorem runOn_save {files : FileTree} {path : String} {r : Replayed}
    {rounded : ReplayStats.Rounded} (hpath : files.canWrite path = .ok ())
    (h : r.stats.rounded = .ok rounded) (p : Performance) :
    (save files path r).runOn p =
      (.ok (), { p with
        stdout := p.stdout ++ printed ["✅ Saved replay results to " ++ path]
        saved := some (FilePath.ofText path, ⟨rounded, r.tally⟩) }) :=
  (Step.runOn_bind_of_ok (runOn_orBreak_of_ok hpath p)).trans
    (Step.runOn_bind_of_ok (runOn_orBreak_of_ok h p))

/-- The program shows a replay in which all sessions have been handed out, and ends with status
0. -/
theorem shows_perform (hload : Ends (load world.files config) (some loaded)) {r : Replayed}
    (hreplay : Ends (replayAll world config loaded) r) (hr : r.complete = true)
    (hfew : r.stats.transactions.natAbs < 2 ^ 1023) {output : Option String}
    (houtput : ∀ path ∈ output, path.isEmpty = false → world.files.canWrite path = .ok ()) :
    EndsWith (perform world config output) 0 (Shows output r) := by
  obtain ⟨summary, hsummary⟩ := ReplayStats.summary_ok hfew
  obtain ⟨rounded, hrounded⟩ := ReplayStats.rounded_ok hfew
  have hstatus (p : Performance) :
      (pure (if r.complete then 0 else 1) : OnProgram Nat).runOn p = (.ok 0, p) := by
    rw [hr]
    rfl
  refine (ends_modify _).bindWith (hload.bindWith (hreplay.bindWith fun p => ?_))
  rw [Step.runOn_bind_of_ok (runOn_summarize hsummary p)]
  cases hpath : output.filter fun path => !path.isEmpty with
  | none =>
    refine ⟨_, hstatus _, ⟨p.stdout, summary, hsummary, ?_⟩, fun path hmem hwanted => ?_⟩
    · rw [hpath]
      simp
    · have hsome : (output.filter fun path => !path.isEmpty) = some path :=
        Option.filter_eq_some_iff.2 ⟨hmem, by rw [hwanted]; rfl⟩
      rw [hpath] at hsome
      cases hsome
  | some path =>
    obtain ⟨hmem, hwanted⟩ := Option.filter_eq_some_iff.1 hpath
    have hsave := runOn_save (houtput path hmem (by simpa using hwanted)) hrounded
    refine ⟨_, (Step.runOn_bind_of_ok (hsave _)).trans (hstatus _),
      ⟨p.stdout, summary, hsummary, ?_⟩, fun other hother _ => ⟨rounded, hrounded, ?_⟩⟩
    · rw [hpath, printed_append, ← String.append_assoc]
      rfl
    · obtain rfl : path = other := Option.some_inj.1 (hmem.symm.trans hother)
      rfl

theorem balanced_replayed (hpeer : world.peer.Orderly good) (hmemory : good world.memory)
    (h : config.Startable) (hprepared : Ends (prepare loaded) (info, run)) (rotation : Rotation)
    {plan : Plan} (hrepetitions : plan.repetitions = config.repetitions.toNat)
    (hpatient : plan.workerTimeout = none) {q : Quantity}
    (hdue : ∀ ssn ∈ run.sessions, q.Paces ssn) :
    Balanced config run.sessions Crew.tally (replayed world config run rotation plan q) := by
  have hthreads : 0 < config.threads.toNat := by
    have := h.threads
    omega
  have hserve : (Crew.surroundings (run.context config.settings world.peer)).Serve
      plan.workerTimeout (Session.Fits run.buffer) (Crew.Ran config.settings.mode good)
      (Crew.Ran config.settings.mode good) := by
    rw [hpatient]
    exact Crew.serve hpeer
  exact (balanced_replay h hserve (fun _ _ => Crew.Ran.tally) hrepetitions
    (Crew.ran_ofSize hthreads hmemory) hdue (fits_prepare hprepared) rotation).1

/-- On a pool the workers have run every session in the end, and have ended. -/
theorem balanced_replayedOnPool (hpeer : world.peer.Orderly good) (hmemory : good world.memory)
    (h : config.Startable) (hprepared : Ends (prepare loaded) (info, run)) (rotation : Rotation)
    {plan : Plan} (hrepetitions : plan.repetitions = config.repetitions.toNat)
    (hpatient : plan.workerTimeout = none) {q : Quantity}
    (hdue : ∀ ssn ∈ run.sessions, q.Paces ssn) (turns : List (List Pool.Turn)) :
    let out := replayedOnPool world config run rotation plan turns q
    Balanced config run.sessions Shift.tally out ∧
      (out.2.outside.pool.completed : Int) = out.2.stats.sessions ∧
      ∀ w ∈ out.2.outside.pool.workers, w.alive = false := by
  have hthreads : 0 < config.threads.toNat := by
    have := h.threads
    omega
  have hserve : (Shift.surroundings (run.context config.settings world.peer)).Serve
      plan.workerTimeout (Session.Fits run.buffer)
      (fun s l => s.OnDuty (run.context config.settings world.peer) good [] l ∧
        s.pool.shutDown = false)
      (Shift.Over config.settings.mode) := by
    rw [hpatient]
    exact Shift.serve hpeer
  have hduty := @Shift.onDuty_ofPool _ (run.context config.settings world.peer) _ _ hthreads turns
    world.clock world.readings _ hmemory
  obtain ⟨hbalanced, hover⟩ := balanced_replay h hserve (fun _ _ => Shift.Over.tally)
    hrepetitions ⟨hduty, rfl⟩ hdue (fits_prepare hprepared) rotation
  unfold replayedOnPool
  dsimp only at hbalanced hover ⊢
  generalize (replay _ plan q run.sessions).runOn _ = out at hbalanced hover ⊢
  have hcompleted := hover.completed.trans hover.tally.outcomes.symm
  refine ⟨hbalanced, ?_, hover.ended⟩
  rw [← hbalanced.accounts.outcomes, hcompleted, Int.natCast_add, Int.natCast_add]

/-- **The accounts of a replay.** For every prepared run, every configuration that can be started
and every peer that fails in exchanges only, whatever it remembers of them, and for every
multiplier that lets the due times be computed: each pass hands out every session once, each
session that is handed out comes to one outcome, and HTTP/2 sessions without a proxy are those that
are skipped.  That is so for the crew, and on a pool for all turns of its workers, which have run
all sessions and ended after the shutdown.  The dispatch of the program, and so its replay of the
loaded run, comes to exactly such totals without an error; and the program that loads this run
prints them, saves them where that is asked for, and ends with status 0, whatever the outcomes
are. -/
theorem accounts_replay (hpeer : world.peer.Orderly good) (hmemory : good world.memory)
    (h : config.Startable) (hprepared : Ends (prepare loaded) (info, run)) :
    (∃ rotation plan,
      Rotation.ofLists config.httpTargets config.httpsTargets = .ok rotation ∧
      Plan.make config.repetitions config.sleepLimit config.workerTimeout = .ok plan ∧
      ∀ q : Quantity, (∀ ssn ∈ run.sessions, q.Paces ssn) →
        Balanced config run.sessions Crew.tally (replayed world config run rotation plan q) ∧
        ∀ turns : List (List Pool.Turn),
          let out := replayedOnPool world config run rotation plan turns q
          Balanced config run.sessions Shift.tally out ∧
            (out.2.outside.pool.completed : Int) = out.2.stats.sessions ∧
            ∀ w ∈ out.2.outside.pool.workers, w.alive = false) ∧
    ∀ m : Binary64, Ends (multiplier config info) m →
      (∀ ssn ∈ run.sessions, (Quantity.real m).Paces ssn) →
      (∃ r : Replayed, Accounts config run.sessions r.stats r.tally ∧ r.complete = true ∧
        Ends (dispatchAll world config run m) r ∧ Ends (replayAll world config loaded) r ∧
        ∀ output : Option String, Ends (load world.files config) (some loaded) →
          (∀ path ∈ output, path.isEmpty = false → world.files.canWrite path = .ok ()) →
          EndsWith (perform world config output) 0 (Shows output r)) ∨
      2 ^ 1023 ≤ config.repetitions * RunState.transactionCount run.sessions := by
  obtain ⟨rotation, hrotation⟩ := rotation_ok h
  obtain ⟨plan, hplan, hrepetitions, hpatient⟩ := plan_ok h
  have hreplayed (q : Quantity) (hdue : ∀ ssn ∈ run.sessions, q.Paces ssn) :=
    balanced_replayed hpeer hmemory h hprepared rotation hrepetitions hpatient hdue
  constructor
  · refine ⟨rotation, plan, hrotation, hplan, fun q hdue => ⟨hreplayed q hdue, ?_⟩⟩
    exact balanced_replayedOnPool hpeer hmemory h hprepared rotation hrepetitions hpatient hdue
  · intro m hmultiplier hdue
    by_cases hfew : config.repetitions * RunState.transactionCount run.sessions < 2 ^ 1023
    · have hbalanced := hreplayed (.real m) hdue
      have hsmall := hbalanced.accounts.natAbs_lt h hfew
      have hend := hbalanced.ends.resolve_right (Int.not_le.2 hfew)
      have hdispatch := ends_dispatchAll h hrotation hplan (Prod.ext hend rfl)
      have hreplay := ends_replayAll hprepared hmultiplier hdispatch
      exact .inl ⟨_, hbalanced.accounts, hbalanced.report, hdispatch, hreplay,
        fun output hload houtput => shows_perform hload hreplay hbalanced.report hsmall houtput⟩
    · exact .inr (Int.not_lt.1 hfew)

/-! ### A replay of two sessions -/

/-- A loaded run whose sessions are in order can be prepared, and its sessions stay as they are. -/
theorem ends_prepare (hrun : loaded.frozen = false) (hnames : loaded.names.frozen = false)
    (hssns : RunState.Normal loaded.sessions) {buffer : Body}
    (hbuffer : Body.filled (RunState.largestBody loaded.sessions) = .ok buffer) :
    ∃ info run, Ends (prepare loaded) (info, run) ∧ run.sessions = loaded.sessions := by
  obtain ⟨info, hprepare⟩ := RunState.runOn_prepare_of_normal hrun hssns hbuffer
  have hfreeze : RunState.freeze.runOn
      { loaded with maxContentLength := RunState.largestBody loaded.sessions, buffer } =
        (.ok (), _) := RunState.freeze_eq_ok_iff.2 ⟨hrun, hnames, rfl⟩
  refine ⟨info, RunState.asFrozen
    { loaded with maxContentLength := RunState.largestBody loaded.sessions, buffer }, ?_, rfl⟩
  refine ends_orBreak_iff.2 ?_
  dsimp only
  rw [Step.runOn_bind_of_ok hprepare, Step.runOn_bind_of_ok hfreeze]
  rfl

theorem ends_load {files : FileTree} {l : Loaded}
    (h : loadPath ((Handler.recording config.settings).loader files) files
      (.ofText config.replayPath) .empty = .ok (l, loaded)) (hok : l.report.ok = true) :
    Ends (load files config) (some loaded) := by
  refine (ends_modify _).bind ((ends_orBreak_iff.2 h).bind ((ends_modify _).bind ?_))
  rw [hok]
  exact ends_pure _

/-- A peer that answers every other call, and lets the others time out. -/
def demoPeer : Peer Nat := fun call k =>
  if k % 2 = 0 then (⟨0, .ok ⟨200, []⟩⟩, k + 1)
  else
    (⟨0, .error ⟨if call.options.isSome then .http1 else .http2, .other, "ReadTimeout", "late"⟩⟩,
      k + 1)

theorem orderly_demoPeer : demoPeer.Orderly fun _ => True where
  stays _ _ _ := trivial
  ends := by
    intro call k f _ hf
    unfold demoPeer at hf
    split at hf
    · cases hf
    · cases hf
      unfold Call.carrier
      cases call.options <;> rfl

/-- A plain session and one over HTTP/2. -/
def demoFile : String :=
  "sessions: [" ++
  "\x7btransactions: [\x7bproxy-request: \x7b\x7d, server-response: \x7b\x7d\x7d]\x7d, " ++
  "\x7bprotocol: [h2], " ++
  "transactions: [\x7bproxy-request: \x7b\x7d, server-response: \x7b\x7d\x7d]\x7d]"

def demoWorld : World Nat where
  files := .directory .free [("a.yaml", .file .free (Text.Utf8.bytes demoFile))]
  lookup := .identity
  peer := demoPeer
  memory := 0
  clock := ⟨0, 1, 0⟩
  readings := []

def demoConfig : ReplayConfig where
  replayPath := "a.yaml"
  loadThreads := 1
  httpTargets := [⟨"127.0.0.1", 80, "h"⟩]
  httpsTargets := [⟨"127.0.0.1", 443, "h"⟩]
  settings := { Settings.default with mode := .noProxy }
  rate := 0
  repetitions := 2
  sleepLimit := 500000
  threads := 3
  workerTimeout := none
  verbosity := "info"

/-- What the program finds in the file. -/
def demoLoad : Loaded × RunState :=
  loadFound ((Handler.recording demoConfig.settings).loader demoWorld.files)
    (.ofText demoConfig.replayPath) (.ok [.ofText demoConfig.replayPath]) .empty

theorem loadPath_demo :
    loadPath ((Handler.recording demoConfig.settings).loader demoWorld.files) demoWorld.files
      (.ofText demoConfig.replayPath) .empty = .ok demoLoad := by
  have hfind : demoWorld.files.find (.ofText demoConfig.replayPath) =
      .ok (.file .free (Text.Utf8.bytes demoFile)) := by
    rfl
  rw [loadPath, filesAt, hfind]
  rfl

/-- The first two workers begin before the third item is handed out, and the second one is done
first. -/
def demoTurns : List (List Pool.Turn) := [[], [.begin 0], [.begin 1, .finish 1, .finish 0]]

/-- The sessions of the file begin at once, one of them is over HTTP/2, and they can be prepared. -/
theorem prepared_demo :
    ∃ info run, Ends (prepare demoLoad.2) (info, run) ∧ run.sessions.length = 2 ∧
      run.sessions.countP (·.protocol = .http2) = 1 ∧
      RunState.transactionCount run.sessions = 2 ∧ ∀ ssn ∈ run.sessions, ssn.start = 0 := by
  have hloaded : demoLoad.2.frozen = false ∧ demoLoad.2.names.frozen = false ∧
      demoLoad.2.sessions.map Session.start = [0, 0] ∧
      demoLoad.2.sessions.map Session.protocol = [.plain, .http2] ∧
      RunState.largestBody demoLoad.2.sessions = 0 ∧
      RunState.transactionCount demoLoad.2.sessions = 2 := by decide +kernel
  obtain ⟨hrun, hnames, hstarts, hprotocols, hbody, hcount⟩ := hloaded
  have hzero : ∀ ssn ∈ demoLoad.2.sessions, ssn.start = 0 := by
    intro ssn hssn
    have hmem : ssn.start ∈ demoLoad.2.sessions.map Session.start := List.mem_map.2 ⟨ssn, hssn, rfl⟩
    rw [hstarts] at hmem
    simpa using hmem
  have hsorted : (demoLoad.2.sessions.map Session.start).Pairwise fun a b => a ≤ b := by
    rw [hstarts]
    decide
  have hnormal : RunState.Normal demoLoad.2.sessions :=
    ⟨List.pairwise_map.1 hsorted, fun first h => hzero first (List.mem_of_mem_head? h)⟩
  obtain ⟨info, run, hprepared, hssns⟩ :=
    ends_prepare hrun hnames hnormal (by rw [hbody]; rfl)
  have hlength : demoLoad.2.sessions.length = 2 := by
    rw [← List.length_map Session.start, hstarts]
    rfl
  have hleft : demoLoad.2.sessions.countP (·.protocol = .http2) = 1 := by
    have hmap : demoLoad.2.sessions.countP (·.protocol = .http2) =
        (demoLoad.2.sessions.map Session.protocol).countP (· = .http2) := by
      rw [List.countP_map]
      rfl
    rw [hmap, hprotocols]
    decide
  refine ⟨info, run, hprepared, ?_⟩
  rw [hssns]
  exact ⟨hlength, hleft, hcount, hzero⟩

/-- Without a rate there is no multiplier but zero. -/
theorem ends_multiplier_demo (info : BatchInfo) :
    Ends (multiplier demoConfig info) (.zero false) := by
  have hrate : rateMultiplier info.transactionCount info.span
      (some (.whole demoConfig.rate)) = .ok (.zero false) := by
    unfold rateMultiplier
    exact if_pos (.inl rfl)
  exact (ends_orBreak_iff.2 hrate).bind (ends_pure _)

/-- A session that begins at once is due at once. -/
theorem paces_of_start_eq_zero {ssn : Session} (h : ssn.start = 0) :
    (Quantity.real (.zero false)).Paces ssn := by
  rw [Quantity.Paces, h]
  have hok : (dueAfter (.real (.zero false)) 0).isOk = true := by decide +kernel
  cases hdue : dueAfter (.real (.zero false)) 0 with
  | ok due => exact ⟨due, rfl⟩
  | error f =>
    rw [hdue] at hok
    cases hok

/-- Two sessions are replayed twice without a proxy: of four, two are skipped, and that is what the
program comes to and saves. -/
theorem accounts_replay_demo :
    ∃ run rotation plan r,
      let out := replayed demoWorld demoConfig run rotation plan (.real (.zero false))
      let onPool :=
        replayedOnPool demoWorld demoConfig run rotation plan demoTurns (.real (.zero false))
      (out.2.stats.sessions = 4 ∧ out.2.outside.tally.skipped = 2) ∧
        (onPool.2.stats.sessions = 4 ∧ onPool.2.outside.tally.skipped = 2 ∧
          onPool.2.outside.pool.completed = 4) ∧
        (r.stats.sessions = 4 ∧ r.tally.skipped = 2) ∧
        Ends (dispatchAll demoWorld demoConfig run (.zero false)) r ∧
        EndsWith (perform demoWorld demoConfig (some "totals.json")) 0
          (Shows (some "totals.json") r) := by
  obtain ⟨info, run, hprepared, hlength, hleft, hcount, hzero⟩ := prepared_demo
  have hload : Ends (load demoWorld.files demoConfig) (some demoLoad.2) :=
    ends_load loadPath_demo (by decide +kernel)
  have hconfig : demoConfig.Startable := ⟨by decide, by decide, nofun, nofun, rfl⟩
  have hdue : ∀ ssn ∈ run.sessions, (Quantity.real (.zero false)).Paces ssn := fun ssn hssn =>
    paces_of_start_eq_zero (hzero ssn hssn)
  have hfew : ¬ 2 ^ 1023 ≤ demoConfig.repetitions * RunState.transactionCount run.sessions := by
    rw [hcount]
    decide +kernel
  have hwrite : demoWorld.files.canWrite "totals.json" = .ok () := by decide +kernel
  have hfour {stats : ReplayStats} {tally : Tally}
      (h : Accounts demoConfig run.sessions stats tally) :
      stats.sessions = 4 ∧ tally.skipped = 2 := by
    have hskipped := h.skipped_noProxy rfl
    rw [hleft] at hskipped
    refine ⟨?_, Int.ofNat_inj.1 hskipped⟩
    rw [h.sessions, hlength]
    rfl
  obtain ⟨⟨rotation, plan, -, -, hreplay⟩, hperform⟩ :=
    @accounts_replay Nat (fun _ => True) demoWorld demoConfig demoLoad.2 run info orderly_demoPeer
      trivial hconfig hprepared
  obtain ⟨hcrew, hpool⟩ := hreplay _ hdue
  obtain ⟨hpool, hcompleted, -⟩ := hpool demoTurns
  obtain ⟨r, haccounts, -, hdispatched, -, hshown⟩ :=
    (hperform (.zero false) (ends_multiplier_demo info) hdue).resolve_right hfew
  have hshown := hshown (some "totals.json") hload fun path hpath _ => by
    obtain rfl := Option.some_inj.1 hpath
    exact hwrite
  obtain ⟨hsessions, hskipped⟩ := hfour hpool.accounts
  rw [hsessions] at hcompleted
  refine ⟨run, rotation, plan, r, hfour hcrew.accounts, ⟨hsessions, hskipped, ?_⟩,
    hfour haccounts, hdispatched, hshown⟩
  exact Int.ofNat_inj.1 hcompleted

end Program

end TrafficReplay
