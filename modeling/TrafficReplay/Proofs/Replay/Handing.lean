import TrafficReplay.Replay.Dispatch
import TrafficReplay.Traffic.RunState

/-!
# What a dispatcher hands out

Among surroundings whose workers are never wanting, a dispatcher hands out the sessions of a batch
in order, the whole batch as often as planned, and counts each of them once.

* `Surroundings.Serve`: surroundings whose workers are never wanting;
* `Dispatch.Handed`: a dispatch that has handed out some sessions, with one lemma for each part of
  the dispatcher;
* `handed_dispatch`, `handed_replay`: what a dispatch, and a replay as a whole, come to.
-/

namespace TrafficReplay

/-- Surroundings whose workers are never wanting.  What holds of a state after some sessions holds
on whatever the dispatcher does, and goes over to one session more when that is assigned; something
else may hold once the workers have ended. -/
structure Surroundings.Serve {σ : Type} (e : Surroundings σ) (timeout : Option Binary64)
    (fit : Session → Prop) (holds ended : σ → List Session → Prop) : Prop where
  now : ∀ {s l}, holds s l → holds (e.now s).2 l
  sleep : ∀ {s l} d, holds s l → holds (e.sleep d s) l
  hand : ∀ {s l}, holds s l → ∃ s', e.takeWorker timeout s = (.ok true, s') ∧
    ∀ w : WorkItem, fit w.session → holds (e.assign w s') (l ++ [w.session])
  finish : ∀ {s l}, holds s l → ended (e.finish s) l
  stopwatch : ∀ {s l}, holds s l → holds (e.stopwatch s).2 l
  stopwatch_ended : ∀ {s l}, ended s l → ended (e.stopwatch s).2 l

/-- A dispatch that has handed out some sessions in a number of complete passes. -/
structure Dispatch.Handed {σ : Type} (holds : σ → List Session → Prop) (d : Dispatch σ)
    (l : List Session) (passes : Nat) : Prop where
  outside : holds d.outside l
  sessions : d.stats.sessions = l.length
  transactions : d.stats.transactions = RunState.transactionCount l
  repetitions : d.stats.repetitions = passes
  aborted : d.stats.aborted = false
  report : d.report = []

theorem RunState.transactionCount_append (l l' : List Session) :
    transactionCount (l ++ l') = transactionCount l + transactionCount l' := by
  unfold transactionCount
  induction l with
  | nil => simp
  | cons ssn l ih => simp [ih, Nat.add_assoc]

/-- The sessions of a batch, the whole batch some times. -/
def passes (n : Nat) (ssns : List Session) : List Session := (List.replicate n ssns).flatten

theorem passes_succ (n : Nat) (ssns : List Session) :
    passes (n + 1) ssns = ssns ++ passes n ssns := by
  simp [passes, List.replicate_succ]

theorem length_passes (n : Nat) (ssns : List Session) :
    (passes n ssns).length = n * ssns.length := by
  simp [passes]

theorem countP_passes (p : Session → Bool) (n : Nat) (ssns : List Session) :
    (passes n ssns).countP p = n * ssns.countP p := by
  induction n with
  | zero => simp [passes]
  | succ n ih => rw [passes_succ, List.countP_append, ih, Nat.succ_mul, Nat.add_comm]

theorem transactionCount_passes (n : Nat) (ssns : List Session) :
    RunState.transactionCount (passes n ssns) = n * RunState.transactionCount ssns := by
  induction n with
  | zero => simp [passes, RunState.transactionCount]
  | succ n ih => rw [passes_succ, RunState.transactionCount_append, ih, Nat.succ_mul, Nat.add_comm]

section

variable {σ : Type} {e : Surroundings σ} {plan : Plan} {multiplier : Quantity}
  {fit : Session → Prop} {holds ended : σ → List Session → Prop} {d : Dispatch σ} {l : List Session}
  {n : Nat} {ssn : Session} {ssns : List Session}

/-- That a session is due at a time that can be computed. -/
def Quantity.Paces (q : Quantity) (ssn : Session) : Prop := ∃ due, dueAfter q ssn.start = .ok due

theorem handed_outside (hd : d.Handed holds l n) {s : σ} (hs : holds s l) :
    ({ d with outside := s } : Dispatch σ).Handed holds l n :=
  { hd with outside := hs }

/-- A look at the surroundings that keeps what holds. -/
theorem handed_look {α : Type} {f : σ → α × σ} (hf : ∀ {s l}, holds s l → holds (f s).2 l)
    (hd : d.Handed holds l n) :
    ∃ a d', (OnDispatch.outside f).runOn d = (.ok a, d') ∧ d'.Handed holds l n :=
  ⟨_, _, rfl, handed_outside hd (hf hd.outside)⟩

theorem handed_pace (he : e.Serve plan.workerTimeout fit holds ended) (hd : d.Handed holds l n)
    (hdue : multiplier.Paces ssn) (baseline : Int) :
    ∃ d', (pace e plan multiplier baseline ssn).runOn d = (.ok (), d') ∧ d'.Handed holds l n := by
  obtain ⟨due, hdue⟩ := hdue
  obtain ⟨now, d₁, hnow, hd₁⟩ := handed_look he.now hd
  have harithmetic :
      (OnDispatch.arithmetic (dueAfter multiplier ssn.start)).runOn d₁ = (.ok due, d₁) := by
    rw [hdue]
    rfl
  unfold pace
  rw [Step.runOn_bind_of_ok hnow, Step.runOn_bind_of_ok harithmetic]
  dsimp only
  split
  · exact ⟨_, rfl, handed_outside hd₁ (he.sleep _ hd₁.outside)⟩
  · exact ⟨_, rfl, hd₁⟩

/-- A session is handed out. -/
theorem handed_dispatchSession (he : e.Serve plan.workerTimeout fit holds ended)
    (hd : d.Handed holds l n) (hdue : multiplier.Paces ssn) (hfit : fit ssn) (baseline : Int) :
    ∃ d', (dispatchSession e plan multiplier baseline ssn).runOn d = (.ok true, d') ∧
      d'.Handed holds (l ++ [ssn]) n := by
  obtain ⟨d₁, hpace, hd₁⟩ := handed_pace he hd hdue baseline
  obtain ⟨s, htake, hassign⟩ := he.hand hd₁.outside
  have htaken : (OnDispatch.takeWorker e plan.workerTimeout).runOn d₁ =
      (.ok true, { d₁ with outside := s }) := by
    rw [OnDispatch.takeWorker, Step.runOn_ofRun, htake]
    rfl
  unfold dispatchSession
  rw [Step.runOn_bind_of_ok hpace, Step.runOn_bind_of_ok htaken]
  refine ⟨_, rfl, ?_⟩
  exact
    { outside := hassign ⟨ssn, _⟩ hfit
      sessions := by
        show d₁.stats.sessions + 1 = _
        rw [hd₁.sessions, List.length_append]
        rfl
      transactions := by
        show d₁.stats.transactions + ssn.transactions.length = _
        rw [hd₁.transactions, RunState.transactionCount_append]
        simp [RunState.transactionCount]
      repetitions := hd₁.repetitions
      aborted := hd₁.aborted
      report := hd₁.report }

/-- A batch is handed out in order. -/
theorem handed_dispatchBatch (he : e.Serve plan.workerTimeout fit holds ended)
    (hd : d.Handed holds l n) (hdue : ∀ ssn ∈ ssns, multiplier.Paces ssn)
    (hfit : ∀ ssn ∈ ssns, fit ssn) (baseline : Int) :
    ∃ d', (dispatchBatch e plan multiplier baseline ssns).runOn d = (.ok true, d') ∧
      d'.Handed holds (l ++ ssns) n := by
  induction ssns generalizing d l with
  | nil => exact ⟨d, rfl, by rwa [List.append_nil]⟩
  | cons ssn ssns ih =>
    obtain ⟨hdue₁, hdue⟩ := List.forall_mem_cons.1 hdue
    obtain ⟨hfit₁, hfit⟩ := List.forall_mem_cons.1 hfit
    obtain ⟨d₁, hsession, hd₁⟩ := handed_dispatchSession he hd hdue₁ hfit₁ baseline
    obtain ⟨d₂, hbatch, hd₂⟩ := ih hd₁ hdue hfit
    rw [List.append_assoc, List.singleton_append] at hd₂
    exact ⟨d₂, (Step.runOn_bind_of_ok hsession).trans hbatch, hd₂⟩

/-- A batch is handed out as often as asked for. -/
theorem handed_dispatchTimes (he : e.Serve plan.workerTimeout fit holds ended)
    (hd : d.Handed holds l n) (hdue : ∀ ssn ∈ ssns, multiplier.Paces ssn)
    (hfit : ∀ ssn ∈ ssns, fit ssn) (times : Nat) :
    ∃ d', (dispatchTimes e plan multiplier ssns times).runOn d = (.ok (), d') ∧
      d'.Handed holds (l ++ passes times ssns) (n + times) := by
  induction times generalizing d l n with
  | zero => exact ⟨d, rfl, by rwa [passes, List.replicate_zero, List.flatten_nil, List.append_nil]⟩
  | succ times ih =>
    obtain ⟨baseline, d₁, hnow, hd₁⟩ := handed_look he.now hd
    obtain ⟨d₂, hbatch, hd₂⟩ := handed_dispatchBatch he hd₁ hdue hfit baseline
    have hcount : Dispatch.Handed holds
        { d₂ with stats := { d₂.stats with repetitions := d₂.stats.repetitions + 1 } }
        (l ++ ssns) (n + 1) :=
      { hd₂ with repetitions := by simp [hd₂.repetitions] }
    obtain ⟨d₃, hrest, hd₃⟩ := ih hcount
    refine ⟨d₃, ?_, ?_⟩
    · unfold dispatchTimes
      rw [Step.runOn_bind_of_ok hnow, Step.runOn_bind_of_ok hbatch]
      exact hrest
    · rw [List.append_assoc, ← passes_succ, Nat.add_assoc, Nat.add_comm 1] at hd₃
      exact hd₃

/-- The end of a replay, at which the totals are told. -/
theorem runOn_sumUp {d : Dispatch σ} (h : d.report = []) :
    (do OnDispatch.report ⟨.info, ← OnDispatch.arithmetic (← get).stats.summary⟩ :
      OnDispatch σ Unit).runOn d =
        match d.stats.summary with
        | .ok summary => (.ok (), { d with report := [⟨.info, summary⟩] })
        | .error f => (.error (.arithmetic f), d) := by
  obtain ⟨outside, rotation, stats, report⟩ := d
  obtain rfl : report = [] := h
  rw [Step.runOn_bind_of_ok (Step.runOn_get _), Step.runOn_bind]
  cases stats.summary <;> rfl

/-- A whole replay hands a batch out as often as planned, and comes to an end unless the totals
cannot be told. -/
theorem handed_replay (he : e.Serve plan.workerTimeout fit holds ended) {s : σ} (hs : holds s [])
    (hdue : ∀ ssn ∈ ssns, multiplier.Paces ssn) (hfit : ∀ ssn ∈ ssns, fit ssn)
    (rotation : Rotation) :
    ∃ d : Dispatch σ, d.Handed ended (passes plan.repetitions ssns) plan.repetitions ∧
      (replay e plan multiplier ssns).runOn (.start s rotation) =
        match d.stats.summary with
        | .ok summary => (.ok (), { d with report := [⟨.info, summary⟩] })
        | .error f => (.error (.arithmetic f), d) := by
  have hstart : (Dispatch.start s rotation).Handed holds [] 0 := ⟨hs, rfl, rfl, rfl, rfl, rfl⟩
  obtain ⟨start, d₁, hbegin, hd₁⟩ := handed_look he.stopwatch hstart
  obtain ⟨d₂, hdispatch, hd₂⟩ := handed_dispatchTimes he hd₁ hdue hfit plan.repetitions
  rw [List.nil_append, Nat.zero_add] at hd₂
  have hfinish : (thenFinish e (dispatch e plan multiplier ssns)).runOn d₁ =
      (.ok (), { d₂ with outside := e.finish d₂.outside }) := by
    rw [thenFinish, Step.runOn_ofRun, dispatch, hdispatch]
  have hd₂ : Dispatch.Handed ended { d₂ with outside := e.finish d₂.outside } _ _ :=
    { hd₂ with outside := he.finish hd₂.outside }
  obtain ⟨stop, d₃, hend, hd₃⟩ := handed_look he.stopwatch_ended hd₂
  have hmeasured : Dispatch.Handed ended
      { d₃ with
        stats := { d₃.stats with elapsed := (stop.sub start).mul millisecondsPerSecond } }
      (passes plan.repetitions ssns) plan.repetitions := { hd₃ with }
  refine ⟨_, hmeasured, ?_⟩
  rw [replay, Step.runOn_bind_of_ok hbegin, Step.runOn_bind_of_ok hfinish,
    Step.runOn_bind_of_ok hend]
  exact runOn_sumUp hmeasured.report

end

end TrafficReplay
