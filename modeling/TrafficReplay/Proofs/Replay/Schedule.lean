import Mathlib.Data.List.Forall2
import TrafficReplay.Proofs.Replay.Rationing
import TrafficReplay.Proofs.Replay.Recording

/-!
# When sessions are handed out

For each session a dispatcher reads the clock once and sleeps at most once, only if the session is
not due yet, and never longer than the limit.  On a clock that goes on only when the dispatcher
sleeps it never falls behind: each session is handed out when it is due, or after a sleep of the
limit if that is earlier, and each pass begins when the one before has ended.

* `Visit`, `Pass`: what is done for a session, and in a pass over the batch;
* `Visited`, `Passed`: the passes that a dispatch makes, with one lemma for each part of the
  dispatcher;
* `instantsFrom`: when the sessions of a pass are handed out on a clock that only sleeps move;
* `dispatch_paced`: what a dispatch does, in order, and when.
-/

namespace TrafficReplay

/-- What is done for a session. -/
structure Visit where
  session : Session
  /-- What the clock says before. -/
  reading : Int
  sleep : Option Int
  /-- The answer when a worker was asked for. -/
  answer : Option (Except PoolFault Bool)
  /-- The item that is handed out, and when. -/
  handed : Option (Int × WorkItem)

/-- What is done for a session, in order. -/
def Visit.events (v : Visit) : List DispatchEvent :=
  .read v.reading :: (v.sleep.toList.map .slept ++
    (v.answer.toList.map .asked ++ v.handed.toList.map fun x => .handed x.1 x.2))

/-- When the items of some visits are handed out. -/
def handedAt (vs : List Visit) : List Int := vs.filterMap fun v => v.handed.map Prod.fst

theorem length_handedAt {vs : List Visit} (h : ∀ v ∈ vs, v.handed.isSome = true) :
    (handedAt vs).length = vs.length :=
  List.filterMap_length_eq_length.2 fun v hv => by simpa using h v hv

/-- A pass over a batch, as far as it goes. -/
structure Pass where
  baseline : Int
  visits : List Visit

namespace Pass

/-- What is done in a pass, in order. -/
def events (p : Pass) : List DispatchEvent := .read p.baseline :: p.visits.flatMap Visit.events

/-- When the items of a pass are handed out. -/
def instants (p : Pass) : List Int := handedAt p.visits

/-- When a pass ends: with its last item, or at once. -/
def ending (p : Pass) : Int := p.instants.getLast?.getD p.baseline

end Pass

/-! ### Visits -/

/-- The sleep before a session that is due at a time. -/
def pauseBefore (limit due now : Int) : Option Int :=
  if now < due then some (min limit (due - now)) else none

/-- That a visit keeps to the pace of a session: if a worker is asked for, then the time of the
session was computed, and there was a sleep exactly if the session was not due yet. -/
structure Visit.Paced (limit : Int) (multiplier : Quantity) (baseline : Int) (v : Visit) :
    Prop where
  asked : v.answer ≠ none → ∃ off, dueAfter multiplier v.session.start = .ok off ∧
    v.sleep = pauseBefore limit (baseline + off) v.reading
  /-- Without a question nothing is done. -/
  idle : v.answer = none → v.sleep = none
  /-- An item is handed out for its session, when there is a worker. -/
  item : ∀ x ∈ v.handed, v.answer = some (.ok true) ∧ x.2.session = v.session

/-- The visits of a pass over a batch, and whether it is whole. -/
inductive Visited (limit : Int) (multiplier : Quantity) (baseline : Int) :
    List Session → List Visit → Bool → Prop
  | done : Visited limit multiplier baseline [] [] true
  | handed {v : Visit} {ssns : List Session} {vs : List Visit} {whole : Bool}
      (hv : v.Paced limit multiplier baseline) (hhanded : v.handed.isSome = true)
      (hrest : Visited limit multiplier baseline ssns vs whole) :
      Visited limit multiplier baseline (v.session :: ssns) (v :: vs) whole
  | stopped {v : Visit} {ssns : List Session} (hv : v.Paced limit multiplier baseline)
      (hhanded : v.handed = none) :
      Visited limit multiplier baseline (v.session :: ssns) [v] false

/-- Some passes over a batch, and whether they are whole. -/
inductive Passed (limit : Int) (multiplier : Quantity) (ssns : List Session) :
    Nat → List Pass → Bool → Prop
  | done : Passed limit multiplier ssns 0 [] true
  | whole {n : Nat} {p : Pass} {ps : List Pass} {whole : Bool}
      (hp : Visited limit multiplier p.baseline ssns p.visits true)
      (hrest : Passed limit multiplier ssns n ps whole) :
      Passed limit multiplier ssns (n + 1) (p :: ps) whole
  | cut {n : Nat} {p : Pass} (hp : Visited limit multiplier p.baseline ssns p.visits false) :
      Passed limit multiplier ssns (n + 1) [p] false

section

variable {limit : Int} {multiplier : Quantity} {baseline : Int} {ssns : List Session}
  {vs : List Visit} {ps : List Pass} {whole : Bool} {n : Nat}

/-- A sleep is for more than no time and for the limit at most, before the session is due. -/
theorem Visit.Paced.sleep_bounds {v : Visit} (h : v.Paced limit multiplier baseline)
    (hlimit : 1 ≤ limit) :
    ∀ d ∈ v.sleep, 0 < d ∧ d ≤ limit ∧
      ∃ off, dueAfter multiplier v.session.start = .ok off ∧ v.reading < baseline + off := by
  intro d hd
  cases hanswer : v.answer with
  | none =>
    rw [h.idle hanswer] at hd
    cases hd
  | some a =>
    obtain ⟨off, hoff, hsleep⟩ := h.asked (by simp [hanswer])
    rw [hsleep, pauseBefore] at hd
    split at hd
    · rename_i hlt
      cases hd
      exact ⟨by omega, by omega, off, hoff, hlt⟩
    · cases hd

theorem Visited.paced (h : Visited limit multiplier baseline ssns vs whole) :
    ∀ v ∈ vs, v.Paced limit multiplier baseline := by
  induction h with
  | done => exact List.forall_mem_nil _
  | handed hv _ _ ih => exact List.forall_mem_cons.2 ⟨hv, ih⟩
  | stopped hv => exact List.forall_mem_singleton.2 hv

/-- The sessions are visited in order, each once. -/
theorem Visited.sessions_prefix (h : Visited limit multiplier baseline ssns vs whole) :
    vs.map Visit.session <+: ssns := by
  induction h with
  | done => exact List.prefix_rfl
  | handed _ _ _ ih => exact (List.prefix_cons_inj _).2 ih
  | stopped _ _ => exact ⟨_, rfl⟩

/-- In a whole pass every session is handed out. -/
theorem Visited.sessions_eq (h : Visited limit multiplier baseline ssns vs whole)
    (hwhole : whole = true) :
    vs.map Visit.session = ssns ∧ ∀ v ∈ vs, v.handed.isSome = true := by
  induction h with
  | done => exact ⟨rfl, List.forall_mem_nil _⟩
  | handed _ hhanded _ ih =>
    obtain ⟨hsessions, hall⟩ := ih hwhole
    exact ⟨by rw [List.map_cons, hsessions], List.forall_mem_cons.2 ⟨hhanded, hall⟩⟩
  | stopped => cases hwhole

theorem Passed.length_le (h : Passed limit multiplier ssns n ps whole) : ps.length ≤ n := by
  induction h with
  | done => exact Nat.le_refl 0
  | whole _ _ ih => exact Nat.succ_le_succ ih
  | cut _ => exact Nat.succ_le_succ (Nat.zero_le _)

theorem Passed.visited (h : Passed limit multiplier ssns n ps whole) :
    ∀ p ∈ ps, ∃ b, Visited limit multiplier p.baseline ssns p.visits b := by
  induction h with
  | done => exact List.forall_mem_nil _
  | whole hp _ ih => exact List.forall_mem_cons.2 ⟨⟨true, hp⟩, ih⟩
  | cut hp => exact List.forall_mem_singleton.2 ⟨false, hp⟩

theorem Passed.length_eq (h : Passed limit multiplier ssns n ps whole) (hwhole : whole = true) :
    ps.length = n ∧ ∀ p ∈ ps, Visited limit multiplier p.baseline ssns p.visits true := by
  induction h with
  | done => exact ⟨rfl, List.forall_mem_nil _⟩
  | whole hp _ ih =>
    obtain ⟨hlength, hall⟩ := ih hwhole
    exact ⟨congrArg (· + 1) hlength, List.forall_mem_cons.2 ⟨hp, hall⟩⟩
  | cut => cases hwhole

end

/-! ### What a dispatcher does -/

section

variable {σ : Type} (e : Surroundings σ) (plan : Plan) (multiplier : Quantity) (baseline : Int)

/-- The clock is read, and there is a sleep if the session is not due yet. -/
theorem runOn_pace (ssn : Session) (d : Dispatch (Recorded σ)) :
    (∃ f d', (pace e.recorded plan multiplier baseline ssn).runOn d =
      (.error (.arithmetic f), d') ∧
      d.outside.Goes e plan.workerTimeout d'.outside [.read (e.now d.outside.state).1]) ∨
    ∃ off d', (pace e.recorded plan multiplier baseline ssn).runOn d = (.ok (), d') ∧
      dueAfter multiplier ssn.start = .ok off ∧
      d.outside.Goes e plan.workerTimeout d'.outside
        (.read (e.now d.outside.state).1 :: (pauseBefore plan.sleepLimit (baseline + off)
          (e.now d.outside.state).1).toList.map .slept) := by
  have hnow : (OnDispatch.outside e.recorded.now).runOn d =
      (.ok (e.now d.outside.state).1, { d with outside := (e.recorded.now d.outside).2 }) := rfl
  have hread := Recorded.goes_now e plan.workerTimeout d.outside
  unfold pace
  rw [Step.runOn_bind_of_ok hnow]
  cases hdue : dueAfter multiplier ssn.start with
  | error f => exact .inl ⟨f, _, Step.runOn_bind_of_error rfl, hread⟩
  | ok off =>
    right
    have harithmetic (d : Dispatch (Recorded σ)) :
        (OnDispatch.arithmetic (.ok off)).runOn d = (.ok off, d) := rfl
    rw [Step.runOn_bind_of_ok (harithmetic _)]
    dsimp only
    by_cases hlt : (e.now d.outside.state).1 < off + baseline
    · rw [if_pos hlt]
      refine ⟨off, _, rfl, rfl, ?_⟩
      rw [Int.add_comm baseline, pauseBefore, if_pos hlt]
      exact hread.trans (Recorded.goes_sleep e plan.workerTimeout _ _)
    · rw [if_neg hlt]
      refine ⟨off, _, rfl, rfl, ?_⟩
      rw [Int.add_comm baseline, pauseBefore, if_neg hlt]
      exact hread

theorem runOn_handOut (timeout : Option Binary64) (ssn : Session) (d : Dispatch (Recorded σ)) :
    ∃ d' t w, (handOut e.recorded ssn).runOn d = (.ok (), d') ∧ w.session = ssn ∧
      d.outside.Goes e timeout d'.outside [.handed t w] :=
  ⟨_, _, ⟨ssn, _⟩, rfl, rfl, Recorded.goes_assign e timeout _ d.outside⟩

/-- A session is handed out if there is a worker for it; otherwise the dispatcher gives up. -/
theorem runOn_takeWorker (ssn : Session) (d : Dispatch (Recorded σ)) :
    ∃ (a : Except PoolFault Bool) (handed : Option (Int × WorkItem)),
      (∀ x ∈ handed, a = .ok true ∧ x.2.session = ssn) ∧
      ∃ r d', Step.runOn (do
          if ← OnDispatch.takeWorker e.recorded plan.workerTimeout then
            handOut e.recorded ssn
            return true
          else
            giveUp ssn
            return false) d = (r, d') ∧
        d.outside.Goes e plan.workerTimeout d'.outside
          (.asked a :: handed.toList.map fun x => .handed x.1 x.2) ∧
        (r = .ok true ↔ handed.isSome = true) ∧ (r = .ok false → d'.stats.aborted = true) := by
  have htake : (OnDispatch.takeWorker e.recorded plan.workerTimeout).runOn d =
      ((e.takeWorker plan.workerTimeout d.outside.state).1.mapError DispatchFault.pool,
        { d with outside := (e.recorded.takeWorker plan.workerTimeout d.outside).2 }) := rfl
  have hasked := Recorded.goes_takeWorker e plan.workerTimeout d.outside
  generalize (e.takeWorker plan.workerTimeout d.outside.state).1 = a at htake hasked
  cases a with
  | error f =>
    rw [Step.runOn_bind_of_error htake]
    exact ⟨.error f, none, by simp, _, _, rfl, hasked, by simp, nofun⟩
  | ok found =>
    rw [Step.runOn_bind_of_ok htake]
    cases found with
    | false => exact ⟨.ok false, none, by simp, _, _, rfl, hasked, by simp, fun _ => rfl⟩
    | true =>
      obtain ⟨d', t, w, hhand, hw, hhanded⟩ := runOn_handOut e plan.workerTimeout ssn
        { d with outside := (e.recorded.takeWorker plan.workerTimeout d.outside).2 }
      exact ⟨.ok true, some (t, w), by simpa using hw, _, _, Step.runOn_bind_of_ok hhand,
        hasked.trans hhanded, by simp, nofun⟩

/-- A session is visited: there is a pause, and then a worker is asked for, unless the time of the
session cannot be computed. -/
theorem runOn_dispatchSession (ssn : Session) (d : Dispatch (Recorded σ)) :
    ∃ v : Visit, v.session = ssn ∧ v.Paced plan.sleepLimit multiplier baseline ∧
      ∃ r d', (dispatchSession e.recorded plan multiplier baseline ssn).runOn d = (r, d') ∧
        d.outside.Goes e plan.workerTimeout d'.outside v.events ∧
        (r = .ok true ↔ v.handed.isSome = true) ∧ (r = .ok false → d'.stats.aborted = true) := by
  unfold dispatchSession
  obtain ⟨f, d₁, hpace, hgoes⟩ | ⟨off, d₁, hpace, hoff, hgoes⟩ :=
    runOn_pace e plan multiplier baseline ssn d
  · rw [Step.runOn_bind_of_error hpace]
    refine ⟨⟨ssn, (e.now d.outside.state).1, none, none, none⟩, rfl, ?_, _, _, rfl, hgoes, ?_, ?_⟩
    · exact { asked := fun h => absurd rfl h, idle := fun _ => rfl, item := by simp }
    · simp
    · nofun
  · rw [Step.runOn_bind_of_ok hpace]
    obtain ⟨a, handed, hitem, r, d₂, hrun, hgoes', hhanded, haborted⟩ :=
      runOn_takeWorker e plan ssn d₁
    refine ⟨⟨ssn, (e.now d.outside.state).1, pauseBefore plan.sleepLimit (baseline + off)
      (e.now d.outside.state).1, some a, handed⟩, rfl, ?_, r, d₂, hrun, ?_, hhanded, haborted⟩
    · exact
        { asked := fun _ => ⟨off, hoff, rfl⟩
          idle := nofun
          item := fun x hx => ⟨congrArg some (hitem x hx).1, (hitem x hx).2⟩ }
    · simpa [Visit.events] using hgoes.trans hgoes'

/-- The sessions of a batch are visited up to the first one that is not handed out. -/
theorem runOn_dispatchBatch (ssns : List Session) (d : Dispatch (Recorded σ)) :
    ∃ vs whole, Visited plan.sleepLimit multiplier baseline ssns vs whole ∧
      ∃ r d', (dispatchBatch e.recorded plan multiplier baseline ssns).runOn d = (r, d') ∧
        d.outside.Goes e plan.workerTimeout d'.outside (vs.flatMap Visit.events) ∧
        (r = .ok true ↔ whole = true) ∧ (r = .ok false → d'.stats.aborted = true) := by
  induction ssns generalizing d with
  | nil => exact ⟨[], true, .done, _, _, rfl, .refl _ _ _, by simp, by simp⟩
  | cons ssn ssns ih =>
    unfold dispatchBatch
    obtain ⟨v, rfl, hv, r, d₁, hrun, hgoes, hhanded, haborted⟩ :=
      runOn_dispatchSession e plan multiplier baseline ssn d
    cases hfound : v.handed.isSome with
    | true =>
      obtain rfl := hhanded.2 hfound
      obtain ⟨vs, whole, hvisited, r, d₂, hrest, hgoes', hwhole, haborted⟩ := ih d₁
      rw [Step.runOn_bind_of_ok hrun]
      exact ⟨v :: vs, whole, .handed hv hfound hvisited, r, d₂, hrest, hgoes.trans hgoes', hwhole,
        haborted⟩
    | false =>
      have hnone : v.handed = none := by simpa using hfound
      have hstopped : Visited plan.sleepLimit multiplier baseline (v.session :: ssns) [v] false :=
        .stopped hv hnone
      have hgoes : d.outside.Goes e plan.workerTimeout d₁.outside ([v].flatMap Visit.events) := by
        simpa using hgoes
      cases r with
      | error f =>
        rw [Step.runOn_bind_of_error hrun]
        exact ⟨[v], false, hstopped, _, _, rfl, hgoes, by simp, by simp⟩
      | ok found =>
        cases found with
        | true => simp [hnone] at hhanded
        | false =>
          rw [Step.runOn_bind_of_ok hrun]
          exact ⟨[v], false, hstopped, _, _, rfl, hgoes, by simp, fun _ => haborted rfl⟩

/-- A batch is passed over as often as planned, unless a session is not handed out. -/
theorem runOn_dispatchTimes (ssns : List Session) (n : Nat) (d : Dispatch (Recorded σ)) :
    ∃ ps whole, Passed plan.sleepLimit multiplier ssns n ps whole ∧
      ∃ r d', (dispatchTimes e.recorded plan multiplier ssns n).runOn d = (r, d') ∧
        d.outside.Goes e plan.workerTimeout d'.outside (ps.flatMap Pass.events) ∧
        (r = .ok () → whole = true ∨ d'.stats.aborted = true) := by
  induction n generalizing d with
  | zero => exact ⟨[], true, .done, _, _, rfl, .refl _ _ _, fun _ => .inl rfl⟩
  | succ n ih =>
    have hnow : (OnDispatch.outside e.recorded.now).runOn d =
        (.ok (e.now d.outside.state).1, { d with outside := (e.recorded.now d.outside).2 }) := rfl
    have hread := Recorded.goes_now e plan.workerTimeout d.outside
    unfold dispatchTimes
    rw [Step.runOn_bind_of_ok hnow]
    obtain ⟨vs, whole, hvisited, r, d₁, hrun, hgoes, hwhole, haborted⟩ :=
      runOn_dispatchBatch e plan multiplier (e.now d.outside.state).1 ssns
        { d with outside := (e.recorded.now d.outside).2 }
    have hpass := hread.trans hgoes
    cases whole with
    | true =>
      obtain rfl := hwhole.2 rfl
      obtain ⟨ps, whole, hpassed, r, d₂, hrest, hgoes', hwhole⟩ :=
        ih { d₁ with stats := { d₁.stats with repetitions := d₁.stats.repetitions + 1 } }
      rw [Step.runOn_bind_of_ok hrun]
      refine ⟨⟨_, vs⟩ :: ps, whole, .whole hvisited hpassed, r, d₂, hrest, ?_, hwhole⟩
      exact hpass.trans hgoes'
    | false =>
      have hcut : Passed plan.sleepLimit multiplier ssns (n + 1)
          [⟨(e.now d.outside.state).1, vs⟩] false := .cut hvisited
      have hgoes : d.outside.Goes e plan.workerTimeout d₁.outside
          ([(⟨(e.now d.outside.state).1, vs⟩ : Pass)].flatMap Pass.events) := by
        simpa [Pass.events] using hpass
      cases r with
      | error f =>
        rw [Step.runOn_bind_of_error hrun]
        exact ⟨_, false, hcut, _, _, rfl, hgoes, by simp⟩
      | ok found =>
        cases found with
        | true => simp at hwhole
        | false =>
          rw [Step.runOn_bind_of_ok hrun]
          exact ⟨_, false, hcut, _, _, rfl, hgoes, fun _ => .inr (haborted rfl)⟩

end

/-! ### A clock that only sleeps move -/

/-- When sessions are handed out that are due some times after a baseline, from a time on: each of
them when it is due, or after a sleep of the limit if that is earlier. -/
def instantsFrom (limit baseline : Int) : Int → List Int → List Int
  | _, [] => []
  | t, off :: offs =>
    min (t + limit) (baseline + off) ::
      instantsFrom limit baseline (min (t + limit) (baseline + off)) offs

/-- A good state of surroundings, and the time of its clock. -/
structure Surroundings.At {σ : Type} (e : Surroundings σ) (good : σ → Prop) (s : σ) (t : Int) :
    Prop where
  good : good s
  now : (e.now s).1 = t

/-- Surroundings whose clock goes on only when the dispatcher sleeps, for as long as the sleep was
asked for. -/
structure Surroundings.Steady {σ : Type} (e : Surroundings σ) (timeout : Option Binary64)
    (good : σ → Prop) : Prop where
  now : ∀ {s t}, e.At good s t → e.At good (e.now s).2 t
  sleep : ∀ {s t} d, e.At good s t → e.At good (e.sleep d s) (t + d)
  take : ∀ {s t}, e.At good s t → e.At good (e.takeWorker timeout s).2 t
  assign : ∀ {s t} w, e.At good s t → e.At good (e.assign w s) t

section

variable {σ : Type} {e : Surroundings σ} {timeout : Option Binary64} {good : σ → Prop} {s s' : σ}
  {limit : Int} {multiplier : Quantity} {baseline t : Int} {ssns : List Session}
  {vs : List Visit} {ps : List Pass} {whole : Bool} {n : Nat} {off : Int} {offs : List Int}

/-- A sleep ends when the session is due, or after the limit. -/
theorem add_pauseBefore {due : Int} (hle : t ≤ due) (hlimit : 1 ≤ limit) :
    t + (pauseBefore limit due t).getD 0 = min (t + limit) due := by
  unfold pauseBefore
  split
  · rw [Option.getD_some]
    omega
  · rw [Option.getD_none]
    omega

theorem Surroundings.Steady.sleeps (he : e.Steady timeout good) {sleep : Option Int}
    (hs : e.At good s t) (hf : e.Follows timeout s (sleep.toList.map .slept) s') :
    e.At good s' (t + sleep.getD 0) := by
  cases sleep with
  | none =>
    cases hf
    simpa using hs
  | some d =>
    cases hf with
    | slept hf =>
      cases hf
      exact he.sleep d hs

/-- A session is handed out when it is due, or after a sleep of the limit. -/
theorem Visit.Paced.timed {v : Visit} (hv : v.Paced limit multiplier baseline)
    (he : e.Steady timeout good) (hlimit : 1 ≤ limit)
    (hoff : dueAfter multiplier v.session.start = .ok off) (hs : e.At good s t)
    (hle : t ≤ baseline + off) (hf : e.Follows timeout s v.events s')
    (hhanded : v.handed.isSome = true) :
    v.handed.map Prod.fst = some (min (t + limit) (baseline + off)) ∧
      e.At good s' (min (t + limit) (baseline + off)) := by
  obtain ⟨ssn, reading, sleep, answer, handed⟩ := v
  obtain ⟨⟨t', w⟩, rfl⟩ : ∃ x, handed = some x := Option.isSome_iff_exists.1 hhanded
  obtain ⟨a, rfl⟩ : ∃ a, answer = some a := ⟨_, (hv.item (t', w) rfl).1⟩
  obtain ⟨off', hoff', hsleep⟩ := hv.asked nofun
  cases hoff.symm.trans hoff'
  cases hf with
  | read hf =>
    have hnow := he.now hs
    obtain ⟨s₁, hslept, hf⟩ := hf.split
    obtain rfl : sleep = pauseBefore limit (baseline + off) t := hs.now ▸ hsleep
    have hpaused := he.sleeps hnow hslept
    rw [add_pauseBefore hle hlimit] at hpaused
    cases hf with
    | asked hf =>
      have htaken := he.take hpaused
      cases hf with
      | handed hf =>
        cases hf
        exact ⟨congrArg some htaken.now, he.assign w htaken⟩

/-- The sessions of a pass are handed out at the instants of their times, as far as it goes. -/
theorem Visited.timed (h : Visited limit multiplier baseline ssns vs whole)
    (he : e.Steady timeout good) (hlimit : 1 ≤ limit)
    (hoffs : List.Forall₂ (fun ssn off => dueAfter multiplier ssn.start = .ok off) ssns offs)
    {before : Int} (hsorted : (before :: offs).Pairwise (· ≤ ·)) (hle : t ≤ baseline + before)
    (hs : e.At good s t) (hf : e.Follows timeout s (vs.flatMap Visit.events) s') :
    handedAt vs <+: instantsFrom limit baseline t offs ∧
      (whole = true → e.At good s' ((handedAt vs).getLast?.getD t)) := by
  induction h generalizing offs before t s with
  | done =>
    cases hf
    exact ⟨List.nil_prefix, fun _ => hs⟩
  | @handed v ssns vs whole hv hhanded hrest ih =>
    cases hoffs with
    | @cons _ off _ offs hoff hoffs =>
      obtain ⟨hbefore, hsorted⟩ := List.pairwise_cons.1 hsorted
      rw [List.flatMap_cons] at hf
      obtain ⟨s₁, hvisit, hf⟩ := hf.split
      have hdue : t ≤ baseline + off := by
        have hoff := hbefore off List.mem_cons_self
        omega
      obtain ⟨hinstant, hs₁⟩ := hv.timed he hlimit hoff hs hdue hvisit hhanded
      obtain ⟨hinstants, hlast⟩ := ih hoffs hsorted (Int.min_le_right _ _) hs₁ hf
      have hcons : handedAt (v :: vs) = min (t + limit) (baseline + off) :: handedAt vs := by
        rw [handedAt, List.filterMap_cons, hinstant]
        rfl
      rw [hcons, List.getLast?_cons, Option.getD_some]
      exact ⟨(List.prefix_cons_inj _).2 hinstants, hlast⟩
  | stopped hv hhanded =>
    refine ⟨?_, nofun⟩
    rw [handedAt, List.filterMap_cons, hhanded]
    exact List.nil_prefix

/-- That passes begin one after another: the first at a time, and each other one when the one before
it has ended. -/
def StartsAt : Int → List Pass → Prop
  | _, [] => True
  | t, p :: ps => p.baseline = t ∧ StartsAt p.ending ps

/-- A pass begins at its baseline, and its sessions are handed out at the instants of their times,
as far as it goes. -/
theorem Pass.timed {p : Pass} (hp : Visited limit multiplier p.baseline ssns p.visits whole)
    (he : e.Steady timeout good) (hlimit : 1 ≤ limit)
    (hoffs : List.Forall₂ (fun ssn off => dueAfter multiplier ssn.start = .ok off) ssns offs)
    (hsorted : (0 :: offs).Pairwise (· ≤ ·)) (hs : e.At good s t)
    (hf : e.Follows timeout s p.events s') :
    p.baseline = t ∧ p.instants <+: instantsFrom limit p.baseline p.baseline offs ∧
      (whole = true → e.At good s' p.ending) := by
  obtain ⟨baseline, visits⟩ := p
  obtain rfl := hs.now
  cases hf with
  | read hf => exact ⟨rfl, hp.timed he hlimit hoffs hsorted (by simp) (he.now hs) hf⟩

theorem Passed.timed (h : Passed limit multiplier ssns n ps whole) (he : e.Steady timeout good)
    (hlimit : 1 ≤ limit)
    (hoffs : List.Forall₂ (fun ssn off => dueAfter multiplier ssn.start = .ok off) ssns offs)
    (hsorted : (0 :: offs).Pairwise (· ≤ ·)) (hs : e.At good s t)
    (hf : e.Follows timeout s (ps.flatMap Pass.events) s') :
    StartsAt t ps ∧ ∀ p ∈ ps, p.instants <+: instantsFrom limit p.baseline p.baseline offs := by
  induction h generalizing t s with
  | done => exact ⟨trivial, List.forall_mem_nil _⟩
  | whole hp hrest ih =>
    rw [List.flatMap_cons] at hf
    obtain ⟨s₁, hpass, hf⟩ := hf.split
    obtain ⟨hbegin, hinstants, hend⟩ := Pass.timed hp he hlimit hoffs hsorted hs hpass
    obtain ⟨hstarts, hall⟩ := ih (hend rfl) hf
    exact ⟨⟨hbegin, hstarts⟩, List.forall_mem_cons.2 ⟨hinstants, hall⟩⟩
  | cut hp =>
    rw [List.flatMap_cons, List.flatMap_nil, List.append_nil] at hf
    obtain ⟨hbegin, hinstants, -⟩ := Pass.timed hp he hlimit hoffs hsorted hs hf
    exact ⟨⟨hbegin, trivial⟩, List.forall_mem_singleton.2 hinstants⟩

end

/-! ### The instants of a pass -/

section

variable {limit baseline t : Int} {offs : List Int}

@[simp] theorem length_instantsFrom (limit baseline t : Int) (offs : List Int) :
    (instantsFrom limit baseline t offs).length = offs.length := by
  induction offs generalizing t with
  | nil => rfl
  | cons off offs ih => rw [instantsFrom, List.length_cons, List.length_cons, ih]

/-- No session is handed out later than it is due. -/
theorem instantsFrom_le {i : Nat} {instant : Int}
    (h : (instantsFrom limit baseline t offs)[i]? = some instant) :
    ∃ off, offs[i]? = some off ∧ instant ≤ baseline + off := by
  induction offs generalizing t i with
  | nil => cases h
  | cons off offs ih =>
    cases i with
    | zero =>
      cases h
      exact ⟨off, rfl, Int.min_le_right _ _⟩
    | succ i => exact ih h

/-- Without a gap beyond the limit every session is handed out when it is due. -/
theorem instantsFrom_eq_map {before : Int}
    (h : (before :: offs).IsChain fun a b => b ≤ a + limit) :
    instantsFrom limit baseline (baseline + before) offs = offs.map (baseline + ·) := by
  induction offs generalizing before with
  | nil => rfl
  | cons off offs ih =>
    obtain ⟨hgap, hrest⟩ := List.isChain_cons_cons.1 h
    have hdue : min (baseline + before + limit) (baseline + off) = baseline + off := by omega
    rw [instantsFrom, hdue, ih hrest, List.map_cons]

end

/-! ### A whole dispatch -/

/-- **Pacing.** What a dispatch does, in order, is a number of passes over the sessions, each as far
as it goes. It sleeps at most once for a session, for more than no time and for the limit at most,
and only if the session is not due yet. If the dispatch comes to its end, all passes are whole. On a
clock that only sleeps move, and with sessions whose times are in order, the first pass begins at
once and each other one when the one before has ended, and the sessions of a pass are handed out
when they are due, or after a sleep of the limit if that is earlier: never later than they are due,
and just then if no gap between their times is beyond the limit. -/
theorem dispatch_paced {σ : Type} (e : Surroundings σ) {plan : Plan} (hlimit : 1 ≤ plan.sleepLimit)
    (multiplier : Quantity) (ssns : List Session) (s : σ) (rotation : Rotation) :
    ∃ passes : List Pass,
      eventsOf e plan multiplier ssns s rotation = passes.flatMap Pass.events ∧
      passes.length ≤ plan.repetitions ∧
      (∀ p ∈ passes, p.visits.map Visit.session <+: ssns ∧
        ∀ v ∈ p.visits, ∀ d ∈ v.sleep, 0 < d ∧ d ≤ plan.sleepLimit ∧
          ∃ off, dueAfter multiplier v.session.start = .ok off ∧ v.reading < p.baseline + off) ∧
      (∀ d', (dispatch e plan multiplier ssns).runOn (.start s rotation) = (.ok (), d') →
        d'.stats.aborted = false → passes.length = plan.repetitions ∧
          ∀ p ∈ passes, p.visits.map Visit.session = ssns ∧ p.instants.length = ssns.length) ∧
      ∀ good offs, e.Steady plan.workerTimeout good → good s →
        List.Forall₂ (fun ssn off => dueAfter multiplier ssn.start = .ok off) ssns offs →
        (0 :: offs).Pairwise (· ≤ ·) →
        StartsAt (e.now s).1 passes ∧ ∀ p ∈ passes,
          p.instants <+: instantsFrom plan.sleepLimit p.baseline p.baseline offs ∧
          (∀ (i : Nat) t, p.instants[i]? = some t →
            ∃ off, offs[i]? = some off ∧ t ≤ p.baseline + off) ∧
          ((0 :: offs).IsChain (fun a b => b ≤ a + plan.sleepLimit) →
            p.instants <+: offs.map (p.baseline + ·)) := by
  obtain ⟨ps, whole, hpassed, r, d, hrun, hgoes, hwhole⟩ :=
    runOn_dispatchTimes e plan multiplier ssns plan.repetitions (.start ⟨s, []⟩ rotation)
  have hrun : (dispatch e.recorded plan multiplier ssns).runOn (.start ⟨s, []⟩ rotation) =
      (r, d) := hrun
  have hevents : eventsOf e plan multiplier ssns s rotation = ps.flatMap Pass.events := by
    rw [eventsOf, hrun]
    exact hgoes.events
  refine ⟨ps, hevents, hpassed.length_le, fun p hp => ?_, fun d' hd' haborted => ?_,
    fun good offs he hgood hoffs hsorted => ?_⟩
  · obtain ⟨b, hvisited⟩ := hpassed.visited p hp
    exact ⟨hvisited.sessions_prefix, fun v hv => (hvisited.paced v hv).sleep_bounds hlimit⟩
  · have hsame := runOn_dispatch_recorded e plan multiplier ssns (.start ⟨s, []⟩ rotation)
    rw [hrun] at hsame
    obtain ⟨rfl, rfl⟩ := Prod.mk.inj (hsame.symm.trans hd')
    have hwhole : whole = true := (hwhole rfl).resolve_right (Bool.eq_false_iff.1 haborted)
    obtain ⟨hlength, hall⟩ := hpassed.length_eq hwhole
    refine ⟨hlength, fun p hp => ?_⟩
    obtain ⟨hsessions, hhanded⟩ := (hall p hp).sessions_eq rfl
    refine ⟨hsessions, ?_⟩
    rw [Pass.instants, length_handedAt hhanded, ← hsessions, List.length_map]
  · obtain ⟨hstarts, hall⟩ := hpassed.timed he hlimit hoffs hsorted ⟨hgood, rfl⟩ hgoes.follows
    refine ⟨hstarts, fun p hp => ⟨hall p hp, fun i t ht => ?_, fun hgaps => ?_⟩⟩
    · obtain ⟨hi, rfl⟩ := List.getElem?_eq_some_iff.1 ht
      exact instantsFrom_le (List.prefix_iff_getElem?.1 (hall p hp) i hi)
    · have hdue := @instantsFrom_eq_map plan.sleepLimit p.baseline offs 0 hgaps
      rw [Int.add_zero] at hdue
      exact hdue ▸ hall p hp

/-- The clock of a rehearsal goes on only with sleeps if readings take no time and no sleep is
overrun. -/
theorem Rehearsal.steady (timeout : Option Binary64) :
    Rehearsal.surroundings.Steady timeout fun r => r.clock.tick = 0 ∧ r.clock.overrun = 0 where
  now := by
    rintro r _ ⟨⟨htick, hoverrun⟩, rfl⟩
    exact ⟨⟨htick, hoverrun⟩, by simp [surroundings, Clock.read, htick]⟩
  sleep := by
    rintro r _ d ⟨⟨htick, hoverrun⟩, rfl⟩
    exact ⟨⟨htick, hoverrun⟩, by simp [surroundings, Clock.read, Clock.sleep, hoverrun]⟩
  take := by
    rintro ⟨clock, available, readings, assigned, sleeps, asked⟩ _ ⟨hgood, rfl⟩
    rcases available with _ | _ | n <;> exact ⟨hgood, rfl⟩
  assign := by
    rintro r _ w ⟨hgood, rfl⟩
    exact ⟨hgood, rfl⟩

/-- Sessions with a gap that is longer than the limit. -/
def gapped : List Session :=
  [0, 3, 10].map fun start => { Session.blank "f.yaml" 1 with start }

/-- Two passes with short sleeps, from a time on. -/
def briefly : Plan := ⟨2, 4, none⟩

/-- The last session of each pass is handed out before it is due, and the second pass begins when
the first has ended. -/
theorem dispatch_paced_gapped :
    1 ≤ briefly.sleepLimit ∧ ∃ p q : Pass,
      eventsOf Rehearsal.surroundings briefly (.whole 1) gapped
        (.start ⟨1000, 0, 0⟩ none []) twoTargets = p.events ++ q.events ∧
      p.instants = [1000, 1003, 1007] ∧ q.instants = [1007, 1010, 1014] := by
  have hlimit : 1 ≤ briefly.sleepLimit := by decide
  obtain ⟨passes, hevents, -, -, hwhole, htimed⟩ := dispatch_paced Rehearsal.surroundings hlimit
    (.whole 1) gapped (.start ⟨1000, 0, 0⟩ none []) twoTargets
  obtain ⟨hstarts, hall⟩ := htimed _ [0, 3, 10] (Rehearsal.steady none) ⟨rfl, rfl⟩
    (.cons rfl (.cons rfl (.cons rfl .nil))) (by decide)
  have hok : ((dispatch Rehearsal.surroundings briefly (.whole 1) gapped).runOn
      (.start (.start ⟨1000, 0, 0⟩ none []) twoTargets)).1.isOk = true := by decide +kernel
  have haborted : ((dispatch Rehearsal.surroundings briefly (.whole 1) gapped).runOn
      (.start (.start ⟨1000, 0, 0⟩ none []) twoTargets)).2.stats.aborted = false := by
    decide +kernel
  rcases hrun : (dispatch Rehearsal.surroundings briefly (.whole 1) gapped).runOn
    (.start (.start ⟨1000, 0, 0⟩ none []) twoTargets) with ⟨_ | u, d'⟩
  · rw [hrun] at hok
    cases hok
  · rw [hrun] at haborted
    obtain ⟨hlength, hwhole⟩ := hwhole d' hrun haborted
    obtain ⟨p, q, rfl⟩ := List.length_eq_two.1 hlength
    obtain ⟨hfirst, hsecond, -⟩ := hstarts
    have hexact (r : Pass) (hr : r ∈ [p, q]) :
        r.instants = instantsFrom 4 r.baseline r.baseline [0, 3, 10] :=
      (hall r hr).1.eq_of_length
        ((hwhole r hr).2.trans (length_instantsFrom 4 r.baseline r.baseline [0, 3, 10]).symm)
    have hp : p.instants = [1000, 1003, 1007] := by
      rw [hexact p (by simp), hfirst]
      decide +kernel
    have hq : q.instants = [1007, 1010, 1014] := by
      rw [hexact q (by simp), hsecond, Pass.ending, hp]
      rfl
    exact ⟨hlimit, p, q, by simpa using hevents, hp, hq⟩

end TrafficReplay
