import TrafficReplay.Proofs.Replay.Acceptance

/-!
# Workers that get a second job

A worker empties its slot when it begins a job, so it can be given another one while it runs the
first.  What a pool refuses is a third job: a worker has at most two, and it has two exactly if one
was given to it while it ran another.

* `Pool.Supervised.FreeRun`: what may come of operations on any worker, taken or not;
* `Pool.doubles`: operations that give a second job to a worker;
* `Pool.Supervised.assign_eq_of_run`: which jobs are refused, and when a worker has two of them.
-/

namespace TrafficReplay
namespace Pool

variable {p q : Pool} {i k : Nat} {w : Worker}

/-! ### How many jobs a worker has -/

/-- A worker that has no more jobs after a change has no more of them, nor has any other. -/
theorem load_onWorker_le {f : Worker → Worker} {v : Worker} (hv : p.workers[i]? = some v)
    (hf : (f v).load ≤ v.load) (k : Nat) : (p.onWorker i f).load k ≤ p.load k := by
  rw [load_onWorker hv]
  by_cases hki : k = i
  · rw [if_pos hki, hki, load_eq hv]
    exact hf
  · exact Nat.le_of_eq (if_neg hki)

/-- A move begins a job or ends one, and gives none. -/
theorem Move.load_le (h : Move i p q) (k : Nat) : q.load k ≤ p.load k := by
  cases h with
  | @begin j n hv =>
    refine @load_onWorker_le p i (fun _ => ⟨none, .running j, n⟩) _ hv ?_ k
    simp [Worker.load]
  | @finish pending j n hv =>
    refine @load_onWorker_le p i (fun _ => ⟨pending, .waiting, n + 1⟩) _ hv ?_ k
    simp [Worker.load]
  | @finishLast pending j n hv =>
    refine @load_onWorker_le p i (fun _ => ⟨pending, .ended, n + 1⟩) _ hv ?_ k
    simp [Worker.load]
  | @stop n hv =>
    refine @load_onWorker_le p i (fun _ => ⟨none, .ended, n⟩) _ hv ?_ k
    simp [Worker.load]

theorem Moves.load_le (h : Moves p q) (k : Nat) : q.load k ≤ p.load k := by
  induction h with
  | refl => exact Nat.le_refl _
  | cons hmove _ ih => exact Nat.le_trans ih (hmove.load_le k)

/-- A worker whose job cannot end stays as it is, whatever the others do. -/
theorem Moves.getElem?_of_running {pending : Option Job} {j : Job} {n : Nat} (h : Moves p q)
    (hw : p.workers[k]? = some ⟨pending, .running j, n⟩) (hend : p.canEnd j = false) :
    q.workers[k]? = some ⟨pending, .running j, n⟩ := by
  induction h with
  | refl => exact hw
  | @cons p r q i hmove _ ih =>
    obtain ⟨-, -, hopened, -, hother⟩ := hmove.frame
    refine ih ?_ ((canEnd_congr hopened j).trans hend)
    by_cases hki : k = i
    · subst hki
      cases hmove with
      | begin hv | stop hv => cases hw.symm.trans hv
      | finish hv hj | finishLast hv hj =>
        cases hw.symm.trans hv
        cases hend.symm.trans hj
    · rw [hother k hki, hw]

/-- How many jobs an operation gives to a worker. -/
def given (k : Nat) : Operation → Nat
  | .assign i _ => if k = i then 1 else 0
  | _ => 0

/-- An operation on a pool that was started gives jobs to workers, and takes none away. -/
theorem load_act {o : Operation} {r : Option Nat} (hstarted : p.started = true)
    (ho : Watched.has p o = true) (hq : p.act o = .ok (r, q)) (k : Nat) :
    q.load k = p.load k + given k o := by
  cases o with
  | start =>
    cases hq
    simp [start, hstarted, given]
  | take timeout =>
    obtain ⟨-, rfl⟩ | ⟨i, is, -, -, rfl⟩ := take_eq_ok hq <;> rfl
  | assign i j =>
    obtain ⟨-, hslot, rfl⟩ := assign_eq_ok (act_assign_eq_ok hq)
    have hi : i < p.workers.length := by simpa [Watched.has] using ho
    have hv := List.getElem?_eq_getElem hi
    rw [slot, hv, Option.bind_some] at hslot
    rw [load_onWorker hv, given]
    by_cases hki : k = i
    · rw [if_pos hki, if_pos hki, hki, load_eq hv, Worker.load, Worker.load, hslot]
      simp [Worker.running?, Nat.add_comm]
    · rw [if_neg hki, if_neg hki, Nat.add_zero]
  | wake | release | finish | shutDown | join =>
    cases hq
    rfl

/-! ### Workers that run a job -/

theorem load_le_two (p : Pool) (k : Nat) : p.load k ≤ 2 := by
  unfold load
  cases p.workers[k]? with
  | none => exact Nat.zero_le 2
  | some w =>
    obtain ⟨pending, phase, n⟩ := w
    cases pending <;> cases phase <;> simp [Worker.load, Worker.running?]

/-- Whether an operation gives a worker that has a job a second one. -/
def doubles (p : Pool) : Operation → Bool
  | .assign i _ => !p.shutDown && p.load i == 1
  | _ => false

/-- That each worker has at most one job. -/
def AtMostOne (p : Pool) : Prop := ∀ k, p.load k ≤ 1

/-- That the workers of a pool that was started have come to rest. -/
structure AtWork (p : Pool) : Prop where
  agrees : ∃ s : Watched, s.pool = p ∧ s.Agrees
  rested : p.Rested

theorem AtWork.started (h : p.AtWork) : p.started = true := by
  obtain ⟨s, rfl, hagrees⟩ := h.agrees
  exact hagrees.started

theorem AtWork.going (h : p.AtWork) (hw : w ∈ p.workers) :
    w.phase ≠ .notStarted ∧ (p.shutDown = false → w.phase ≠ .ended) := by
  obtain ⟨s, rfl, hagrees⟩ := h.agrees
  exact hagrees.going w hw

theorem atWork_start (size : Nat) : (ofSize size).start.AtWork :=
  ⟨⟨_, rfl, Watched.agrees_initial size⟩, Watched.rested_start size⟩

/-- Before a shutdown, a worker at rest that has a job runs one, which cannot end. -/
theorem AtWork.runs_of_load (h : p.AtWork) (hshut : p.shutDown = false) (hload : p.load k ≠ 0) :
    ∃ pending j n, p.workers[k]? = some ⟨pending, .running j, n⟩ ∧ p.canEnd j = false := by
  cases hw : p.workers[k]? with
  | none => simp [load, hw] at hload
  | some w =>
    obtain ⟨pending, phase, n⟩ := w
    have hmem := List.mem_of_getElem? hw
    have hrest := h.rested _ hmem
    obtain ⟨hawake, hgoing⟩ := h.going hmem
    cases phase with
    | notStarted => exact absurd rfl hawake
    | ended => exact absurd rfl (hgoing hshut)
    | running j => exact ⟨pending, j, n, rfl, hrest⟩
    | waiting =>
      obtain rfl : pending = none := hrest.1
      simp [load, hw, Worker.load] at hload

/-- Before a shutdown, a slot at rest is filled exactly if the worker has two jobs. -/
theorem AtWork.isSome_slot_iff (h : p.AtWork) (hshut : p.shutDown = false) (k : Nat) :
    (p.slot k).isSome = true ↔ p.load k = 2 := by
  by_cases hload : p.load k = 0
  · have hnone : p.slot k = none := by
      unfold load at hload
      unfold slot
      cases hw : p.workers[k]? with
      | none => rfl
      | some w =>
        rw [hw, Option.elim_some, Worker.load, Nat.add_eq_zero_iff] at hload
        simpa using hload.1
    simp [hnone, hload]
  · obtain ⟨pending, j, n, hw, -⟩ := h.runs_of_load hshut hload
    rw [load_eq hw, slot, hw]
    cases pending <;> simp [Worker.load]

/-- At rest a job is refused after a shutdown, or by a worker that has two already. -/
theorem AtWork.assign_eq (h : p.AtWork) (k : Nat) (j : Job) :
    p.assign k j =
      if p.shutDown then .error .shutDown
      else if p.load k = 2 then .error (.pendingWork k)
      else .ok (p.onWorker k fun w => { w with pending := some j }) := by
  unfold assign
  cases hshut : p.shutDown with
  | true => rfl
  | false =>
    have hslot := h.isSome_slot_iff hshut k
    unfold slot at hslot
    simp only [hslot]

/-- So a worker with one job gets a second one, which is what sets it apart. -/
theorem AtWork.refuses_busy_iff (h : p.AtWork) (k : Nat) (j : Job) :
    ((∃ f, p.assign k j = .error f) ↔ p.shutDown = true ∨ 0 < p.load k) ↔
      p.doubles (.assign k j) = false := by
  have hle := p.load_le_two k
  rw [h.assign_eq, doubles]
  cases hshut : p.shutDown with
  | true => simp
  | false =>
    obtain hload | hload | hload : p.load k = 0 ∨ p.load k = 1 ∨ p.load k = 2 := by omega
    all_goals simp [hload]

namespace Supervised

variable {s t : Supervised} {ops : List Operation}

/-- What may come of operations one after another, on any of the pool's workers. -/
inductive FreeRun : Supervised → List Operation → Supervised → Prop
  | nil (s : Supervised) : FreeRun s [] s
  | cons {s t u : Supervised} {o : Operation} {ops : List Operation}
      (ho : Watched.has s.pool o = true) (hstep : Step s o t) (hrun : FreeRun t ops u) :
      FreeRun s (o :: ops) u

/-- Whether operations are about workers that the pool has, one after another. -/
def hasAll (s : Supervised) : List Operation → Bool
  | [] => true
  | o :: ops => Watched.has s.pool o && (s.perform o).hasAll ops

end Supervised

theorem load_start (size k : Nat) : (ofSize size).start.load k = 0 := by
  unfold load
  cases hw : (ofSize size).start.workers[k]? with
  | none => rfl
  | some w =>
    rw [Watched.mem_workers_start (List.mem_of_getElem? hw)]
    rfl

/-! ### From one operation to the next -/

variable {s t u : Supervised} {o : Operation} {ops : List Operation}

theorem AtWork.step (h : s.pool.AtWork) (ho : Watched.has s.pool o = true)
    (hstep : Supervised.Step s o t) : t.pool.AtWork := by
  obtain ⟨x, hx, hagrees⟩ := h.agrees
  cases hstep with
  | refused => exact h
  | @done r p q hact hmoves hrest =>
    rw [← hx] at ho hact
    have hafter : (x.after p o).pool = p := by cases o <;> rfl
    refine ⟨hmoves.preserve (P := fun p => ∃ x : Watched, x.pool = p ∧ x.Agrees) ?_ ?_, hrest⟩
    · rintro i p q hmove ⟨y, rfl, hy⟩
      exact ⟨_, rfl, hy.move hmove⟩
    · exact ⟨_, hafter, hagrees.after ho hact⟩

/-- An operation that gives no second job leaves every worker with one job at most. -/
theorem AtWork.atMostOne_step (h : s.pool.AtWork) (ho : Watched.has s.pool o = true)
    (hone : s.pool.AtMostOne) (hdoubles : s.pool.doubles o = false)
    (hstep : Supervised.Step s o t) : t.pool.AtMostOne := by
  cases hstep with
  | refused => exact hone
  | @done r p q hact hmoves hrest =>
    intro k
    have hle := hmoves.load_le k
    rw [load_act h.started ho hact] at hle
    have hk := hone k
    refine Nat.le_trans hle ?_
    cases o with
    | assign i j =>
      obtain ⟨hshut, -, -⟩ := assign_eq_ok (act_assign_eq_ok hact)
      have hi : s.pool.load i ≠ 1 := by simpa [doubles, hshut] using hdoubles
      by_cases hki : k = i
      · subst hki
        simp [given]
        omega
      · simpa [given, hki] using hk
    | start | take | wake | release | finish | shutDown | join => exact hk

/-- A worker that is given a second job has two of them, since it cannot have ended the first. -/
theorem AtWork.not_atMostOne_step (h : s.pool.AtWork) (ho : Watched.has s.pool o = true)
    (hdoubles : s.pool.doubles o = true) (hstep : Supervised.Step s o t) : ¬ t.pool.AtMostOne := by
  cases o with
  | assign i j =>
    obtain ⟨hshut, hload⟩ : s.pool.shutDown = false ∧ s.pool.load i = 1 := by
      simpa [doubles] using hdoubles
    cases hstep with
    | @refused f hact =>
      have hassign := h.assign_eq i j
      simp [hshut, hload] at hassign
      simp [act, hassign, bind, Except.bind, pure, Except.pure] at hact
    | @done r p q hact hmoves hrest =>
      obtain ⟨pending, j', n, hw, hend⟩ := h.runs_of_load hshut (hload ▸ Nat.one_ne_zero)
      obtain ⟨-, -, rfl⟩ := assign_eq_ok (act_assign_eq_ok hact)
      have hgiven : (s.pool.onWorker i fun w => { w with pending := some j }).workers[i]? =
          some ⟨some j, .running j', n⟩ := by
        rw [getElem?_onWorker_self, hw]
        rfl
      have hlast := hmoves.getElem?_of_running hgiven hend
      intro hone
      have htwo : q.load i ≤ 1 := hone i
      rw [load_eq hlast] at htwo
      simp [Worker.load] at htwo
  | start | take | wake | release | finish | shutDown | join => cases hdoubles

/-- Along a run all workers have one job at most exactly if no operation gives a second one. -/
theorem Supervised.FreeRun.atMostOne_iff (hrun : s.FreeRun ops u) (h : s.pool.AtWork) :
    u.pool.AtWork ∧ ∃ ps, u.past = ps.reverse ++ s.past ∧ ps.length = ops.length ∧
      ((∀ p ∈ u.pool :: ps, p.AtMostOne) ↔
        s.pool.AtMostOne ∧ ∀ x ∈ ps.zip ops, x.1.doubles x.2 = false) := by
  induction hrun with
  | nil s => exact ⟨h, [], rfl, rfl, by simp⟩
  | @cons s t u o ops ho hstep hrun ih =>
    obtain ⟨hwork, ps, hpast, hlength, hiff⟩ := ih (h.step ho hstep)
    have hpast' : t.past = s.pool :: s.past := by cases hstep <;> rfl
    refine ⟨hwork, s.pool :: ps, by simp [hpast, hpast'], by simp [hlength], ?_⟩
    have hfirst (hone : s.pool.AtMostOne) : t.pool.AtMostOne ↔ s.pool.doubles o = false := by
      constructor
      · intro hone'
        cases hdoubles : s.pool.doubles o with
        | false => rfl
        | true => exact absurd hone' (h.not_atMostOne_step ho hdoubles hstep)
      · exact fun hdoubles => h.atMostOne_step ho hone hdoubles hstep
    rw [List.zip_cons_cons, List.forall_mem_cons (a := (s.pool, o))]
    have hswap : (∀ p ∈ u.pool :: s.pool :: ps, p.AtMostOne) ↔
        s.pool.AtMostOne ∧ ∀ p ∈ u.pool :: ps, p.AtMostOne := by
      simp only [List.forall_mem_cons]
      exact and_left_comm
    rw [hswap, hiff]
    exact and_congr_right fun hone => by rw [hfirst hone]

namespace Supervised

/-- **When a pool refuses a job.** Whatever is done to a pool that was started, and in whatever
order its workers come to rest: a job is refused after a shutdown, or by a worker that has two jobs
already, and then nothing is changed; any other job is accepted. So a worker that runs its only job
is where a pool accepts a job although the worker is busy. A worker has two jobs at most, and all
workers have one at most at all times exactly if no operation gave a job to a worker that ran
one. -/
theorem assign_eq_of_run {size : Int} {hasWork : Bool} (hmake : make size hasWork = .ok p)
    (hrun : (initial p.start).FreeRun ops s) :
    (∀ k < s.pool.workers.length, ∀ j, s.pool.assign k j =
      if s.pool.shutDown then .error .shutDown
      else if s.pool.load k = 2 then .error (.pendingWork k)
      else .ok (s.pool.onWorker k fun w => { w with pending := some j })) ∧
    (∀ k j f, s.pool.assign k j = .error f →
      s.pool.perform (.assign k j) = (.error f, s.pool)) ∧
    (∀ k < s.pool.workers.length, ∀ j,
      ((∃ f, s.pool.assign k j = .error f) ↔ s.pool.shutDown = true ∨ 0 < s.pool.load k) ↔
        s.pool.doubles (.assign k j) = false) ∧
    (∀ p' ∈ s.pool :: s.past, ∀ k, p'.load k ≤ 2) ∧
    ((∀ p' ∈ s.pool :: s.past, ∀ k, p'.load k ≤ 1) ↔
      ∀ x ∈ s.past.reverse.zip ops, x.1.doubles x.2 = false) := by
  obtain rfl := make_eq_ok hmake
  obtain ⟨hwork, ps, hpast, -, hiff⟩ := hrun.atMostOne_iff (atWork_start size.toNat)
  have hps : s.past.reverse = ps := by simp [hpast, initial]
  refine ⟨fun k _ => hwork.assign_eq k, fun k j f hf => ?_,
    fun k _ => hwork.refuses_busy_iff k, fun p' _ => p'.load_le_two, ?_⟩
  · simp only [Pool.perform, act, hf]
    rfl
  · have hfirst : (ofSize size.toNat).start.AtMostOne := fun k => by
      simp [load_start]
    have hmem : ∀ p', p' ∈ s.pool :: s.past ↔ p' ∈ s.pool :: ps := fun p' => by
      simp [← hps]
    simp only [hmem, hps]
    exact hiff.trans (and_iff_right hfirst)

/-- What the pool does when it settles is one of the things that may come of the operations. -/
theorem freeRun_performAll (hops : s.hasAll ops = true) : s.FreeRun ops (s.performAll ops) := by
  induction ops generalizing s with
  | nil => exact .nil s
  | cons o ops ih =>
    obtain ⟨ho, hops⟩ := (Bool.and_eq_true _ _).mp hops
    exact .cons ho (s.step_perform o) (ih hops)

/-- A job that waits for its gate, and one that is given to its worker meanwhile. -/
def doubled : List Operation :=
  [.take none, .assign 0 ⟨"a", true, false⟩, .assign 0 ⟨"b", false, false⟩]

/-- The second job is accepted, and only a third one is refused. -/
theorem assign_eq_of_run_doubled :
    make 1 true = .ok (ofSize 1) ∧
      (initial (ofSize 1).start).FreeRun doubled ((initial (ofSize 1).start).performAll doubled) ∧
      ((initial (ofSize 1).start).performAll doubled).pool.assign 0 ⟨"c", false, false⟩ =
        .error (.pendingWork 0) := by
  have hmake : make 1 true = .ok (ofSize 1) := rfl
  have hrun := @freeRun_performAll (initial (ofSize 1).start) doubled (by decide)
  have hassign := (assign_eq_of_run hmake hrun).1 0 (by decide) ⟨"c", false, false⟩
  exact ⟨hmake, hrun, hassign⟩

/-- A worker that runs a job accepts another one. -/
theorem accepts_busy :
    ¬ ∀ ops s, (initial (ofSize 1).start).FreeRun ops s →
      ∀ j, 0 < s.pool.load 0 → ∃ f, s.pool.assign 0 j = .error f := by
  intro h
  have hrun := @freeRun_performAll (initial (ofSize 1).start) (doubled.take 2) (by decide)
  obtain ⟨f, hf⟩ := h _ _ hrun ⟨"b", false, false⟩ (by decide)
  have hok : (((initial (ofSize 1).start).performAll (doubled.take 2)).pool.assign 0
      ⟨"b", false, false⟩).isOk = true := by decide
  rw [hf] at hok
  cases hok

end Supervised

end Pool
end TrafficReplay
