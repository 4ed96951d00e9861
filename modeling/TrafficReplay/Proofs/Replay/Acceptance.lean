import TrafficReplay.Proofs.Replay.Conservation

/-!
# What becomes of accepted jobs

A job may be given to any worker whose slot is empty, also to one that runs another job, and workers
may move at any time.  An accepted job is begun once, unless it was in the slot of a worker that ran
another job when the pool was shut down: then the worker ends with the job still in its slot.

* `Pool.Watched`, `Pool.Watched.Run`: a pool with a record of the jobs it accepted, and what may
  come of operations;
* `Pool.behind`: the jobs behind running ones;
* `Pool.Watched.accepted_perm_of_run`: the accepted jobs are those that were run and those that were
  behind running ones at the shutdown.
-/

namespace TrafficReplay
namespace Pool

variable {p q : Pool} {i k : Nat} {w : Worker}

theorem make_eq_ok {size : Int} {hasWork : Bool} (h : make size hasWork = .ok p) :
    p = ofSize size.toNat := by
  unfold make at h
  split at h
  · cases h
  · split at h
    · cases h
      rfl
    · cases h

/-! ### Jobs behind running ones -/

/-- The job in the slot of a worker that runs another one. -/
def behindAt (p : Pool) (k : Nat) : Option Job := if (p.runs k).isSome then p.slot k else none

/-- The jobs in the slots of workers that run another one, each with its worker. -/
def behind (p : Pool) : List (Nat × Job) :=
  (List.range p.workers.length).filterMap fun k => (p.behindAt k).map (k, ·)

/-- Whether a worker waits, and so is going to begin what is in its slot. -/
def waits (p : Pool) (k : Nat) : Bool := p.workers[k]?.any fun w => w.phase = .waiting

/-- The job in the slot of a worker that does not wait. -/
def overdue (p : Pool) (k : Nat) : Option Job := if p.waits k then none else p.slot k

theorem count_filterMap_range (f : Nat → Option Job) (n : Nat) (x : Nat × Job) :
    ((List.range n).filterMap fun k => (f k).map (k, ·)).count x =
      if x.1 < n ∧ f x.1 = some x.2 then 1 else 0 := by
  induction n with
  | zero => simp
  | succ n ih =>
    obtain ⟨k, j⟩ := x
    rw [List.range_succ, List.filterMap_append, List.count_append, ih]
    by_cases hk : k = n
    · subst hk
      cases hf : f k <;> simp [hf, List.count_singleton]
    · have hlast : ([n].filterMap fun k => (f k).map (k, ·)).count (k, j) = 0 := by
        cases hf : f n <;> simp [hf, Ne.symm hk]
      have hlt : k < n + 1 ↔ k < n := by omega
      simp only [hlast, hlt, Nat.add_zero]

/-- After a shutdown a worker that does not wait keeps what is in its slot, and one that waits
begins it. -/
theorem Move.overdue (h : Move i p q) (hp : p.shutDown = true) (k : Nat) :
    q.overdue k = p.overdue k := by
  by_cases hki : k = i
  · subst hki
    cases h with
    | begin hv | finishLast hv | stop hv =>
      have hw := getElem?_onWorker_self p k
      simp [Pool.overdue, waits, slot, hw, hv]
    | finish _ _ hq => cases hq.symm.trans hp
  · have hw := h.frame.2.2.2.2 k hki
    rw [Pool.overdue, Pool.overdue, waits, waits, slot, slot, hw]

/-- A worker that has moved was started, and has ended after a shutdown only. -/
theorem Move.phase_ne (h : Move i p q) (hw : q.workers[i]? = some w) :
    w.phase ≠ .notStarted ∧ (q.shutDown = false → w.phase ≠ .ended) := by
  cases h with
  | begin hv | finish hv =>
    simp [release, hv] at hw
    simp [← hw]
  | finishLast hv _ hp | stop hv hp =>
    simp [hv] at hw
    simp [← hw, onWorker, hp]

/-- A pool with a record of the jobs it accepted. -/
structure Watched where
  pool : Pool
  /-- The jobs that were accepted, in order, each with its worker. -/
  accepted : List (Nat × Job)
  /-- The jobs that were behind running ones when the pool was shut down. -/
  stranded : List (Nat × Job)

namespace Watched

/-- A pool that has accepted nothing. -/
def initial (p : Pool) : Watched := ⟨p, [], []⟩

/-- The record after an operation that was not refused and left the pool as `q`. -/
def after (s : Watched) (q : Pool) : Operation → Watched
  | .assign i j => { s with pool := q, accepted := s.accepted ++ [(i, j)] }
  | .shutDown =>
    { s with pool := q, stranded := if s.pool.shutDown then s.stranded else s.pool.behind }
  | _ => { s with pool := q }

/-- Whether an operation is about workers that the pool has. -/
def has (p : Pool) : Operation → Bool
  | .assign i _ => i < p.workers.length
  | _ => true

/-- What may come of operations one after another, while the workers move whenever they like. -/
inductive Run : Watched → List Operation → Watched → Prop
  | nil (s : Watched) : Run s [] s
  | move {s t : Watched} {ops : List Operation} {i : Nat} {q : Pool} (hmove : Move i s.pool q)
      (hrun : Run { s with pool := q } ops t) : Run s ops t
  | done {s t : Watched} {o : Operation} {ops : List Operation} {r : Option Nat} {q : Pool}
      (ho : has s.pool o = true) (hact : s.pool.act o = .ok (r, q))
      (hrun : Run (s.after q o) ops t) :
      Run s (o :: ops) t
  | refused {s t : Watched} {o : Operation} {ops : List Operation} {f : PoolFault}
      (hact : s.pool.act o = .error f) (hrun : Run s ops t) : Run s (o :: ops) t

/-! ### The record agrees with the pool -/

/-- That the record agrees with a pool that was started. -/
structure Agrees (s : Watched) : Prop where
  started : s.pool.started = true
  /-- All workers were started, and none ends before a shutdown. -/
  going : ∀ w ∈ s.pool.workers,
    w.phase ≠ .notStarted ∧ (s.pool.shutDown = false → w.phase ≠ .ended)
  ledger : ∀ x, s.pool.ran.count x + s.pool.held x = s.accepted.count x
  begun : s.pool.ran.length = Worker.allBegun s.pool.workers
  /-- Before a shutdown nothing is stranded. -/
  afloat : s.pool.shutDown = false → s.stranded = []
  /-- After it, what is in the slot of a worker that does not wait is stranded, and nothing else. -/
  stranded : s.pool.shutDown = true →
    ∀ x, s.stranded.count x = if s.pool.overdue x.1 = some x.2 then 1 else 0

variable {s t : Watched}

/-- The workers of a pool that was just started wait with empty slots. -/
theorem mem_workers_start {size : Nat} (hw : w ∈ (ofSize size).start.workers) :
    w = ⟨none, .waiting, 0⟩ := by
  obtain ⟨v, hv, rfl⟩ := List.mem_map.1 hw
  rw [List.eq_of_mem_replicate hv]
  rfl

theorem rested_start (size : Nat) : (ofSize size).start.Rested := by
  intro w hw
  rw [mem_workers_start hw]
  exact ⟨rfl, rfl⟩

theorem agrees_initial (size : Nat) : (initial (ofSize size).start).Agrees := by
  refine
    { started := rfl
      going := fun w hw => by simp [mem_workers_start hw]
      ledger := fun x => ?_
      begun := (Worker.allBegun_eq_zero fun w hw => by rw [mem_workers_start hw]; rfl).symm
      afloat := fun _ => rfl
      stranded := nofun }
  have hslot : (ofSize size).start.slot x.1 = none := by
    rw [slot]
    cases hw : (ofSize size).start.workers[x.1]? with
    | none => rfl
    | some w =>
      rw [mem_workers_start (List.mem_of_getElem? hw)]
      rfl
  show 0 + (ofSize size).start.held x = 0
  simp [held, hslot]

theorem Agrees.move (h : s.Agrees) (hmove : Move i s.pool q) :
    ({ s with pool := q } : Watched).Agrees := by
  obtain ⟨hshut, hstarted, -, -, hother⟩ := hmove.frame
  refine
    { started := hstarted.trans h.started
      going := fun w hw => ?_
      ledger := fun x => (hmove.ledger x).trans (h.ledger x)
      begun := ?_
      afloat := fun hq => h.afloat (hshut.symm.trans hq)
      stranded := fun hq x => ?_ }
  · obtain ⟨k, hk⟩ := List.mem_iff_getElem?.1 hw
    by_cases hki : k = i
    · subst hki
      exact hmove.phase_ne hk
    · rw [hother k hki] at hk
      have hgoing := h.going w (List.mem_of_getElem? hk)
      exact ⟨hgoing.1, fun hq => hgoing.2 (hshut.symm.trans hq)⟩
  · have hsum := hmove.begun
    rw [h.begun, Nat.add_comm] at hsum
    exact Nat.add_left_cancel hsum
  · rw [hmove.overdue (hshut.symm.trans hq)]
    exact h.stranded (hshut.symm.trans hq) x

/-- The record agrees as before with a pool whose workers, jobs and marks are as before. -/
theorem Agrees.congr (h : s.Agrees) (hworkers : q.workers = s.pool.workers)
    (hran : q.ran = s.pool.ran) (hstarted : q.started = s.pool.started)
    (hshut : q.shutDown = s.pool.shutDown) : ({ s with pool := q } : Watched).Agrees := by
  have hslot : ∀ k, q.slot k = s.pool.slot k := fun k => by rw [slot, slot, hworkers]
  refine
    { started := hstarted.trans h.started
      going := fun w hw => ?_
      ledger := fun x => ?_
      begun := ?_
      afloat := fun hq => h.afloat (hshut.symm.trans hq)
      stranded := fun hq x => ?_ }
  · have hgoing := h.going w (hworkers ▸ hw)
    exact ⟨hgoing.1, fun hq => hgoing.2 (hshut.symm.trans hq)⟩
  · rw [held, hslot, hran]
    exact h.ledger x
  · rw [hran, hworkers]
    exact h.begun
  · rw [overdue, waits, hslot, hworkers]
    exact h.stranded (hshut.symm.trans hq) x

/-- Before a shutdown a worker that does not wait runs a job. -/
theorem Agrees.behindAt_eq (h : s.Agrees) (hshut : s.pool.shutDown = false) (k : Nat) :
    s.pool.behindAt k = s.pool.overdue k := by
  unfold behindAt overdue runs waits slot
  cases hw : s.pool.workers[k]? with
  | none => rfl
  | some w =>
    obtain ⟨hawake, hgoing⟩ := h.going w (List.mem_of_getElem? hw)
    obtain ⟨pending, phase, n⟩ := w
    cases phase with
    | notStarted => exact absurd rfl hawake
    | ended => exact absurd rfl (hgoing hshut)
    | waiting | running => simp

theorem lt_length_of_overdue {j : Job} (h : p.overdue k = some j) : k < p.workers.length := by
  unfold overdue slot at h
  cases hw : p.workers[k]? with
  | none => simp [hw] at h
  | some w => exact (List.getElem?_eq_some_iff.1 hw).1

/-- What is behind running jobs when the pool is shut down is stranded. -/
theorem Agrees.shutDown (h : s.Agrees) :
    (s.after { s.pool with shutDown := true } .shutDown).Agrees := by
  refine
    { started := h.started
      going := fun w hw => ⟨(h.going w hw).1, nofun⟩
      ledger := h.ledger
      begun := h.begun
      afloat := nofun
      stranded := fun _ x => ?_ }
  show (if s.pool.shutDown then s.stranded else s.pool.behind).count x = _
  cases hshut : s.pool.shutDown with
  | true => exact h.stranded hshut x
  | false =>
    have hlt : (x.1 < s.pool.workers.length ∧ s.pool.overdue x.1 = some x.2) ↔
        s.pool.overdue x.1 = some x.2 := and_iff_right_of_imp lt_length_of_overdue
    rw [if_neg (by simp), behind, count_filterMap_range, h.behindAt_eq hshut]
    simp only [hlt]
    rfl

/-- A job that is accepted is in the slot of its worker. -/
theorem Agrees.assign {j : Job} (h : s.Agrees) (hi : i < s.pool.workers.length)
    (hq : s.pool.assign i j = .ok q) : (s.after q (.assign i j)).Agrees := by
  obtain ⟨hshut, hslot, rfl⟩ := assign_eq_ok hq
  have hv := List.getElem?_eq_getElem hi
  have hpending : (s.pool.workers[i]).pending = none := by
    rw [slot, hv, Option.bind_some] at hslot
    exact hslot
  refine
    { started := h.started
      going := fun w hw => ?_
      ledger := fun x => ?_
      begun := ?_
      afloat := h.afloat
      stranded := fun hq => Bool.noConfusion (hq.symm.trans hshut) }
  · obtain ⟨k, hk⟩ := List.mem_iff_getElem?.1 hw
    obtain ⟨-, hk⟩ | ⟨rfl, v, hv, rfl⟩ := getElem?_onWorker_eq_some hk
    · exact h.going w (List.mem_of_getElem? hk)
    · exact h.going v (List.mem_of_getElem? hv)
  · have hheld := @held_onWorker s.pool i (fun w => { w with pending := some j }) _ hv x
    simp [hpending] at hheld
    show s.pool.ran.count x + _ = (s.accepted ++ [(i, j)]).count x
    rw [List.count_append, ← h.ledger x, Nat.add_assoc]
    exact congrArg _ hheld
  · have hsum := Worker.allBegun_modify (fun w => { w with pending := some j }) hv
    exact h.begun.trans (Nat.add_right_cancel hsum).symm

/-- The record agrees with the pool after every operation that gives an answer. -/
theorem Agrees.after {o : Operation} {r : Option Nat} (h : s.Agrees) (ho : has s.pool o = true)
    (hact : s.pool.act o = .ok (r, q)) : (s.after q o).Agrees := by
  cases o with
  | start =>
    cases hact
    have hsame : s.pool.start = s.pool := by simp [start, h.started]
    exact h.congr (by rw [hsame]) (by rw [hsame]) (by rw [hsame]) (by rw [hsame])
  | take timeout =>
    obtain ⟨-, rfl⟩ | ⟨i, is, -, -, rfl⟩ := take_eq_ok hact <;> exact h.congr rfl rfl rfl rfl
  | assign i j => exact h.assign (by simpa [has] using ho) (act_assign_eq_ok hact)
  | shutDown =>
    cases hact
    exact h.shutDown
  | wake | release | finish | join =>
    cases hact
    exact h.congr rfl rfl rfl rfl

theorem Run.agrees {ops : List Operation} (hrun : s.Run ops t) (h : s.Agrees) : t.Agrees := by
  induction hrun with
  | nil => exact h
  | move hmove _ ih => exact ih (h.move hmove)
  | done ho hact _ ih => exact ih (h.after ho hact)
  | refused _ _ ih => exact ih h

end Watched

/-! ### Once the running jobs have ended -/

/-- That every running job may end, and the workers have come to rest. -/
structure Quiet (p : Pool) : Prop where
  rested : p.Rested
  free : ∀ k j, p.runs k = some j → p.canEnd j = true

theorem Quiet.running?_eq_none (h : p.Quiet) (hw : p.workers[k]? = some w) : w.running? = none := by
  obtain ⟨pending, phase, n⟩ := w
  cases phase with
  | running j =>
    have hrest : p.canEnd j = false := h.rested _ (List.mem_of_getElem? hw)
    have hfree : p.canEnd j = true := h.free k j (by rw [runs, hw]; rfl)
    cases hrest.symm.trans hfree
  | notStarted | waiting | ended => rfl

theorem Quiet.running_eq_nil (h : p.Quiet) : p.running = [] := by
  refine List.filterMap_eq_nil_iff.2 fun w hw => ?_
  obtain ⟨k, hk⟩ := List.mem_iff_getElem?.1 hw
  rw [h.running?_eq_none hk]
  rfl

theorem quiet_of_running_eq_nil (hrest : p.Rested) (h : p.running = []) : p.Quiet := by
  refine ⟨hrest, fun k j hj => ?_⟩
  obtain ⟨w, hw, hrun⟩ := Option.bind_eq_some_iff.1 hj
  have hnone := List.filterMap_eq_nil_iff.1 h w (List.mem_of_getElem? hw)
  rw [hrun] at hnone
  cases hnone

/-- A worker that waits at rest has an empty slot. -/
theorem Rested.overdue_eq (h : p.Rested) (k : Nat) : p.overdue k = p.slot k := by
  unfold overdue waits slot
  cases hw : p.workers[k]? with
  | none => rfl
  | some w =>
    obtain ⟨pending, phase, n⟩ := w
    cases phase with
    | waiting =>
      have hrest : p.AtRest ⟨pending, .waiting, n⟩ := h _ (List.mem_of_getElem? hw)
      have hpending : pending = none := hrest.1
      simp [hpending]
    | notStarted | running | ended => simp

namespace Watched

variable {s t : Watched}

/-- Without a shutdown no job is left in a slot. -/
theorem Agrees.slot_eq_none (h : s.Agrees) (hquiet : s.pool.Quiet) (hshut : s.pool.shutDown = false)
    (k : Nat) : s.pool.slot k = none := by
  rw [← hquiet.rested.overdue_eq, ← h.behindAt_eq hshut, behindAt, runs]
  cases hw : s.pool.workers[k]? with
  | none => rfl
  | some w => simp [hquiet.running?_eq_none hw]

/-- What is left in the slots is what is stranded. -/
theorem Agrees.held_eq (h : s.Agrees) (hquiet : s.pool.Quiet) (x : Nat × Job) :
    s.pool.held x = s.stranded.count x := by
  cases hshut : s.pool.shutDown with
  | true => rw [h.stranded hshut, held, hquiet.rested.overdue_eq]
  | false => simp [held, h.slot_eq_none hquiet hshut, h.afloat hshut]

theorem Agrees.perm (h : s.Agrees) (hquiet : s.pool.Quiet) :
    s.accepted.Perm (s.pool.ran ++ s.stranded) := by
  refine List.perm_iff_count.2 fun x => ?_
  rw [List.count_append, ← h.held_eq hquiet, h.ledger]

theorem Run.shutDown {ops : List Operation} (hrun : s.Run ops t) :
    t.pool.shutDown = true ↔ s.pool.shutDown = true ∨ .shutDown ∈ ops := by
  induction hrun with
  | nil => simp
  | move hmove _ ih => rw [ih, hmove.frame.1]
  | @done s t o ops r q ho hact hrun ih =>
    have hq : (s.after q o).pool = q := by cases o <;> rfl
    rw [ih, hq, (marks_act hact).2.1, List.mem_cons, or_assoc, eq_comm (a := Operation.shutDown)]
  | refused hact _ ih =>
    have hne := (act_error hact).2
    rw [ih, List.mem_cons, or_iff_right (Ne.symm hne)]

/-- **What becomes of accepted jobs.** Whatever is done to a pool, and whenever its workers move:
once all running jobs were allowed to end, no job is running, and the accepted jobs are those that
were run, each once and to its end, and those that were behind running ones when the pool was shut
down. So an accepted job was run as often as it was accepted exactly if it is not one of these; and
without a shutdown there are none. -/
theorem accepted_perm_of_run {size : Int} {hasWork : Bool} {ops : List Operation}
    (hmake : make size hasWork = .ok p) (hrun : (initial p.start).Run ops s)
    (hquiet : s.pool.Quiet) :
    s.pool.running = [] ∧ s.pool.completed = s.pool.ran.length ∧
      s.accepted.Perm (s.pool.ran ++ s.stranded) ∧
      (∀ x, s.pool.ran.count x = s.accepted.count x ↔ x ∉ s.stranded) ∧
      (.shutDown ∉ ops → s.stranded = []) := by
  obtain rfl := make_eq_ok hmake
  have hagrees := hrun.agrees (agrees_initial size.toNat)
  have hperm := hagrees.perm hquiet
  refine ⟨hquiet.running_eq_nil, ?_, hperm, fun x => ?_, fun hops => hagrees.afloat ?_⟩
  · rw [hagrees.begun, allBegun_eq, hquiet.running_eq_nil]
    rfl
  · rw [hperm.count_eq, List.count_append, ← List.count_eq_zero]
    omega
  · simpa [initial, ofSize, start, hops] using hrun.shutDown

/-! ### The run of a pool that settles -/

/-- Do something to the pool and record it. -/
def perform (s : Watched) (o : Operation) : Watched :=
  match s.pool.perform o with
  | (.ok _, q) => s.after q o
  | (.error _, q) => { s with pool := q }

/-- Do things to the pool one after another. -/
def performAll (s : Watched) (ops : List Operation) : Watched := ops.foldl perform s

theorem Run.moves {ops : List Operation} {accepted stranded : List (Nat × Job)} (h : Moves p q)
    (hrun : Run ⟨q, accepted, stranded⟩ ops t) : Run ⟨p, accepted, stranded⟩ ops t := by
  induction h with
  | refl => exact hrun
  | cons hmove _ ih => exact .move hmove (ih hrun)

/-- What the pool does when it settles is one of the things that may come of an operation. -/
theorem run_perform {o : Operation} {ops : List Operation} (ho : has s.pool o = true)
    (hrun : (s.perform o).Run ops t) : s.Run (o :: ops) t := by
  unfold perform Pool.perform at hrun
  cases hact : s.pool.act o with
  | error f =>
    rw [hact] at hrun
    exact .refused hact hrun
  | ok x =>
    rw [hact] at hrun
    refine .done ho hact ?_
    cases o <;> exact Run.moves (moves_settle x.2) hrun

theorem rested_performAll (h : s.pool.Rested) (ops : List Operation) :
    (s.performAll ops).pool.Rested := by
  induction ops generalizing s with
  | nil => exact h
  | cons o ops ih =>
    refine ih (s := s.perform o) ?_
    unfold perform Pool.perform
    cases s.pool.act o with
    | error f => exact h
    | ok x => cases o <;> exact rested_settle x.2

/-- A job that waits for its gate, and one behind it when the pool is shut down. -/
def behindRunning : List Operation :=
  [.take none, .assign 0 ⟨"a", true, false⟩, .assign 0 ⟨"b", false, false⟩, .shutDown, .finish "a"]

/-- One worker after that. -/
def oneWorker : Watched := (initial (ofSize 1).start).performAll behindRunning

theorem run_oneWorker : (initial (ofSize 1).start).Run behindRunning oneWorker := by
  refine run_perform rfl (run_perform (by decide) (run_perform (by decide) ?_))
  exact run_perform rfl (run_perform rfl (.nil _))

theorem quiet_oneWorker : oneWorker.pool.Quiet := by
  refine quiet_of_running_eq_nil (rested_performAll (rested_start 1) _) (by decide)

/-- The first job was run, the second one was left behind. -/
theorem accepted_perm_of_run_oneWorker :
    make 1 true = .ok (ofSize 1) ∧ (initial (ofSize 1).start).Run behindRunning oneWorker ∧
      oneWorker.pool.Quiet ∧ oneWorker.stranded = [(0, ⟨"b", false, false⟩)] ∧
      oneWorker.accepted.Perm (oneWorker.pool.ran ++ oneWorker.stranded) := by
  have hmake : make 1 true = .ok (ofSize 1) := rfl
  exact ⟨hmake, run_oneWorker, quiet_oneWorker, by decide,
    (accepted_perm_of_run hmake run_oneWorker quiet_oneWorker).2.2.1⟩

/-- A job that was accepted before the shutdown is never run. -/
theorem not_ran_oneWorker :
    (initial (ofSize 1).start).Run behindRunning oneWorker ∧ oneWorker.pool.Quiet ∧
      (0, ⟨"b", false, false⟩) ∈ oneWorker.accepted ∧
      (0, ⟨"b", false, false⟩) ∉ oneWorker.pool.ran :=
  ⟨run_oneWorker, quiet_oneWorker, by decide, by decide⟩

end Watched

end Pool
end TrafficReplay
