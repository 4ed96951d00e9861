import TrafficReplay.Proofs.Replay.Supervision

/-!
# No worker and no job is lost

Under someone who gives a job only to a worker that was taken for it, a pool loses neither workers
nor jobs, whatever is done to it in whatever order.

* `Pool.Supervised.Kept`, `Pool.Supervised.Run.kept`: what every allowed operation keeps;
* `Pool.Supervised.Conserved`, `Pool.Supervised.conserved_run`: what is seen of the pool at any time.
-/

namespace TrafficReplay
namespace Pool

variable {p q : Pool} {i k : Nat} {w : Worker} {handed : List Nat} {accepted : List (Nat × Job)}

/-- What a worker runs. -/
def runs (p : Pool) (k : Nat) : Option Job := (p.workers[k]?).bind Worker.running?

/-! ### At rest -/

/-- A worker at rest has an empty slot. -/
theorem Fit.pending_eq_none_of_atRest (h : p.Fit handed k w) (hw : p.AtRest w) :
    w.pending = none := by
  cases hpending : w.pending with
  | none => rfl
  | some j =>
    have hphase := h.slot (by simp [hpending])
    simp [AtRest, hphase, hpending] at hw

theorem Sound.slot_eq_none (h : p.Sound handed accepted) (hrest : p.Rested)
    (k : Nat) : p.slot k = none := by
  cases hw : p.workers[k]? with
  | none => rw [slot, hw, Option.bind_none]
  | some w =>
    rw [slot, hw, Option.bind_some]
    exact (h.fit k w hw).pending_eq_none_of_atRest (hrest w (List.mem_of_getElem? hw))

/-- At rest every accepted job has been begun once, by its worker. -/
theorem Sound.perm_of_atRest (h : p.Sound handed accepted)
    (hrest : p.Rested) : p.ran.Perm accepted := by
  refine List.perm_iff_count.2 fun x => ?_
  rw [← h.ledger x, held, h.slot_eq_none hrest]
  simp

/-- The jobs that were begun are completed or running. -/
theorem allBegun_eq (p : Pool) :
    Worker.allBegun p.workers = p.completed + p.running.length := by
  unfold Worker.allBegun completed running
  induction p.workers with
  | nil => rfl
  | cons w ws ih =>
    rw [List.foldr_cons, ih, List.foldr_cons, Worker.begun, List.filterMap_cons]
    cases w.running? <;> simp <;> omega

/-- At rest every worker of a pool that is started and not shut down is idle once, handed out, or
running a job. -/
theorem Sound.once_of_atRest (h : p.Sound handed accepted) (hrest : p.Rested)
    (hstarted : p.started = true) (hshut : p.shutDown = false) (hk : k < p.workers.length) :
    p.idle.count k + handed.count k + (p.runs k).toList.length = 1 := by
  have hw := List.getElem?_eq_getElem hk
  have hfit := h.fit k _ hw
  have hpending := hfit.pending_eq_none_of_atRest (hrest _ (List.mem_of_getElem? hw))
  have honce := hfit.once hstarted hshut
  rw [Worker.load, hpending] at honce
  rw [runs, hw, Option.bind_some]
  simpa using honce

/-- After a shutdown the workers that run nothing have ended. -/
theorem not_alive_of_atRest (hw : p.AtRest w) (hshut : p.shutDown = true)
    (hrunning : w.running? = none) : w.alive = false := by
  obtain ⟨pending, phase, n⟩ := w
  cases phase with
  | notStarted => rfl
  | ended => rfl
  | waiting => cases hw.2.symm.trans hshut
  | running j => cases hrunning

/-! ### The queue of the idle workers -/

/-- Workers become idle at the end of the queue. -/
theorem Moves.idle_prefix (h : Moves p q) : p.idle <+: q.idle := by
  induction h with
  | refl => exact List.prefix_refl _
  | cons hmove _ ih =>
    refine List.IsPrefix.trans ?_ ih
    cases hmove with
    | finish => exact List.prefix_append _ _
    | begin | finishLast | stop => exact List.prefix_refl _

/-- An operation lets workers become idle at the end of the queue, or takes the first of the queue
and nothing else. -/
theorem idle_act {o : Operation} {r : Option Nat} (hq : p.act o = .ok (r, q)) :
    p.idle <+: q.idle ∨
      q.idle = p.idle.tail ∧ q.workers = p.workers ∧ q.shutDown = p.shutDown ∧
        q.opened = p.opened := by
  cases o with
  | start =>
    cases hq
    refine .inl ?_
    unfold start
    split
    · exact List.prefix_refl _
    · exact List.prefix_append _ _
  | take timeout =>
    obtain ⟨-, rfl⟩ | ⟨i, is, hidle, -, rfl⟩ := take_eq_ok hq
    · exact .inl (List.prefix_refl _)
    · exact .inr ⟨by rw [hidle, List.tail_cons], rfl, rfl, rfl⟩
  | assign i j =>
    obtain ⟨-, -, rfl⟩ := assign_eq_ok (act_assign_eq_ok hq)
    exact .inl (List.prefix_refl _)
  | release i =>
    cases hq
    exact .inl (List.prefix_append _ _)
  | wake | finish | shutDown | join =>
    cases hq
    exact .inl (List.prefix_refl _)

/-- The same holds once the workers have come to rest, since no worker can move when one is taken. -/
theorem idle_moves_act {r : Pool} {o : Operation} {answer : Option Nat} (hrest : p.Rested)
    (hq : p.act o = .ok (answer, q)) (hmoves : Moves q r) :
    p.idle <+: r.idle ∨ r.idle = p.idle.tail := by
  refine (idle_act hq).imp (fun h => h.trans hmoves.idle_prefix) fun h => ?_
  obtain ⟨hidle, hworkers, hshut, hopened⟩ := h
  have hrest' : q.Rested := fun w hw =>
    (atRest_congr hshut hopened w).2 (hrest w (hworkers ▸ hw))
  rw [hmoves.eq_of_rested hrest', hidle]

/-- Only the start and the shutdown change the marks of a pool. -/
theorem marks_act {o : Operation} {r : Option Nat} (hq : p.act o = .ok (r, q)) :
    (q.started = true ↔ p.started = true ∨ o = .start) ∧
      (q.shutDown = true ↔ p.shutDown = true ∨ o = .shutDown) ∧
      q.workers.length = p.workers.length := by
  cases o with
  | start =>
    cases hq
    unfold start
    split <;> simp [*]
  | take timeout =>
    obtain ⟨-, rfl⟩ | ⟨i, is, -, -, rfl⟩ := take_eq_ok hq <;> simp
  | assign i j =>
    obtain ⟨-, -, rfl⟩ := assign_eq_ok (act_assign_eq_ok hq)
    simp [onWorker]
  | wake | release | finish | shutDown | join =>
    cases hq
    simp [release]

theorem act_error {o : Operation} {f : PoolFault} (hf : p.act o = .error f) :
    o ≠ .start ∧ o ≠ .shutDown := by
  constructor <;> (rintro rfl; cases hf)

/-- No worker of a pool that is not shut down is twice in the queue. -/
theorem Sound.nodup_idle (h : p.Sound handed accepted) (hshut : p.shutDown = false) :
    p.idle.Nodup := by
  cases hstarted : p.started with
  | false => exact (h.quiet hstarted).1 ▸ List.nodup_nil
  | true =>
    refine List.nodup_iff_count.2 fun k => ?_
    by_cases hk : k ∈ p.idle
    · have := (h.fit k _ (List.getElem?_eq_getElem (h.idle_lt k hk))).once hstarted hshut
      omega
    · rw [List.count_eq_zero_of_not_mem hk]
      exact Nat.zero_le 1

namespace Supervised

variable {s t : Supervised}

/-- For how many operations a worker has been idle. -/
def idleFor (s : Supervised) (k : Nat) : Nat :=
  ((s.pool :: s.past).takeWhile fun p => p.idle.contains k).length

theorem idleFor_of_not_mem (h : k ∉ s.pool.idle) : s.idleFor k = 0 := by
  simp [idleFor, h]

/-- A worker that is idle after an operation has been so for one operation more. -/
theorem idleFor_of_mem (hpast : t.past = s.pool :: s.past)
    (h : k ∈ t.pool.idle) : t.idleFor k = s.idleFor k + 1 := by
  simp [idleFor, hpast, h]

/-- What every allowed operation keeps. -/
structure Kept (s : Supervised) : Prop where
  sound : s.pool.Sound s.handed s.accepted
  rest : s.pool.Rested
  /-- The queue of the idle workers is in the order in which they became idle. -/
  order : s.pool.shutDown = false →
    s.pool.idle.Pairwise fun i k => s.idleFor k ≤ s.idleFor i

theorem kept_initial (size : Nat) : (initial (ofSize size)).Kept where
  sound := sound_ofSize size
  rest w hw := by
    obtain rfl := List.eq_of_mem_replicate hw
    trivial
  order _ := .nil

/-- The queue stays in order when workers leave it at the front and join it at the end. -/
theorem order_step (hpast : t.past = s.pool :: s.past)
    (horder : s.pool.idle.Pairwise fun i k => s.idleFor k ≤ s.idleFor i)
    (hnodup : t.pool.idle.Nodup)
    (hidle : s.pool.idle <+: t.pool.idle ∨ t.pool.idle = s.pool.idle.tail) :
    t.pool.idle.Pairwise fun i k => t.idleFor k ≤ t.idleFor i := by
  have hmono : ∀ {i k}, i ∈ t.pool.idle → k ∈ t.pool.idle → s.idleFor k ≤ s.idleFor i →
      t.idleFor k ≤ t.idleFor i := fun hi hk h => by
    rw [idleFor_of_mem hpast hi, idleFor_of_mem hpast hk]
    exact Nat.succ_le_succ h
  -- Workers that join the queue have been idle for no operation before, those that stay for some.
  obtain ⟨new, hnew⟩ | htail := hidle
  · have hfresh : ∀ k ∈ new, s.idleFor k = 0 := fun k hk => by
      rw [← hnew, List.nodup_append] at hnodup
      exact idleFor_of_not_mem fun hold => hnodup.2.2 k hold k hk rfl
    rw [← hnew] at hmono ⊢
    refine List.pairwise_append.2 ⟨?_, ?_, fun i hi k hk => ?_⟩
    · exact horder.imp_of_mem fun hi hk =>
        hmono (List.mem_append_left _ hi) (List.mem_append_left _ hk)
    · refine List.pairwise_of_forall_mem_list fun i hi k hk => ?_
      refine hmono (List.mem_append_right _ hi) (List.mem_append_right _ hk) ?_
      rw [hfresh k hk]
      exact Nat.zero_le _
    · refine hmono (List.mem_append_left _ hi) (List.mem_append_right _ hk) ?_
      rw [hfresh k hk]
      exact Nat.zero_le _
  · rw [htail] at hmono ⊢
    exact horder.tail.imp_of_mem hmono

theorem Kept.step {o : Operation} (h : s.Kept) (ho : s.allows o = true) (hstep : s.Step o t) :
    t.Kept := by
  cases hstep with
  | @done r p q hact hmoves hrest =>
    have hsound := hmoves.preserve (P := fun q => q.Sound _ _)
      (fun _ _ _ hmove => Sound.move hmove) (h.sound.act ho hact)
    refine ⟨hsound, hrest, fun hshut => ?_⟩
    refine order_step (s := s) rfl (h.order ?_) (hsound.nodup_idle hshut)
      (idle_moves_act h.rest hact hmoves)
    have hp : p.shutDown = false := hmoves.marks.1.symm.trans hshut
    have hmarks := (marks_act hact).2.1
    rw [hp] at hmarks
    exact (by simpa using hmarks : s.pool.shutDown = false ∧ o ≠ .shutDown).1
  | refused =>
    refine ⟨h.sound, h.rest, fun hshut => ?_⟩
    exact order_step (s := s) rfl (h.order hshut) (h.sound.nodup_idle hshut)
      (.inl (List.prefix_refl _))

/-- Whatever is done, the books agree with the pool, the workers are at rest, and the queue is in
order. -/
theorem Run.kept {ops : List Operation} (hrun : s.Run ops t) (h : s.Kept) : t.Kept := by
  induction hrun with
  | nil => exact h
  | cons ho hstep _ ih => exact ih (h.step ho hstep)

theorem Step.marks {o : Operation} (hstep : s.Step o t) :
    (t.pool.started = true ↔ s.pool.started = true ∨ o = .start) ∧
      (t.pool.shutDown = true ↔ s.pool.shutDown = true ∨ o = .shutDown) ∧
      t.pool.workers.length = s.pool.workers.length := by
  cases hstep with
  | done hact hmoves =>
    obtain ⟨hshut, hstarted, -, hlength⟩ := hmoves.marks
    rw [hshut, hstarted, hlength]
    exact marks_act hact
  | refused hact =>
    obtain ⟨hstart, hshut⟩ := act_error hact
    simp [hstart, hshut]

theorem Run.marks {ops : List Operation} (hrun : s.Run ops t) :
    (t.pool.started = true ↔ s.pool.started = true ∨ .start ∈ ops) ∧
      (t.pool.shutDown = true ↔ s.pool.shutDown = true ∨ .shutDown ∈ ops) ∧
      t.pool.workers.length = s.pool.workers.length := by
  induction hrun with
  | nil => simp
  | cons _ hstep _ ih =>
    obtain ⟨hstarted, hshut, hlength⟩ := hstep.marks
    obtain ⟨hstarted', hshut', hlength'⟩ := ih
    rw [hstarted', hshut', hstarted, hshut, hlength', hlength, List.mem_cons, List.mem_cons,
      or_assoc, or_assoc, eq_comm (a := Operation.start), eq_comm (a := Operation.shutDown)]
    exact ⟨.rfl, .rfl, rfl⟩

/-! ### What is seen of the pool -/

/-- Whether a worker is in exactly one of the queue of the idle ones (once), the hands of someone,
and a job. -/
def Placed (s : Supervised) (k : Nat) : Prop :=
  (s.pool.idle.count k = 1 ∧ k ∉ s.handed ∧ s.pool.runs k = none) ∨
  (k ∉ s.pool.idle ∧ s.handed.count k = 1 ∧ s.pool.runs k = none) ∨
  (k ∉ s.pool.idle ∧ k ∉ s.handed ∧ ∃ j, s.pool.runs k = some j)

/-- What is seen, after some operations, of a pool of some workers. -/
structure Conserved (s : Supervised) (n : Nat) (ops : List Operation) : Prop where
  size : s.pool.workers.length = n
  /-- From the start to a shutdown each worker is in one place. -/
  placed : .start ∈ ops → .shutDown ∉ ops → ∀ k < n, s.Placed k
  /-- No others are idle or handed out. -/
  real : ∀ k, k ∈ s.pool.idle ∨ k ∈ s.handed → k < n
  /-- From the start to a shutdown a worker is given if one is idle. -/
  given : .start ∈ ops → .shutDown ∉ ops → s.pool.idle ≠ [] → ∀ timeout,
    isNegative timeout = false → ∃ i q, s.pool.take timeout = .ok (some i, q)
  /-- A worker that is given is idle, and none has been so for longer. -/
  longest : ∀ timeout i q, s.pool.take timeout = .ok (some i, q) →
    i ∈ s.pool.idle ∧ ∀ k ∈ s.pool.idle, s.idleFor k ≤ s.idleFor i
  /-- Until a shutdown a worker that is handed out gets the job it is given. -/
  accepts : .shutDown ∉ ops → ∀ i ∈ s.handed, ∀ j, ∃ q, s.pool.assign i j = .ok q
  /-- The accepted jobs are completed or running. -/
  total : s.accepted.length = s.pool.completed + s.pool.running.length
  /-- Each was begun once, by its worker. -/
  once : s.pool.ran.Perm s.accepted
  /-- After a shutdown no job is accepted. -/
  noJob : .shutDown ∈ ops → ∀ i j, s.pool.assign i j = .error .shutDown
  /-- After a shutdown no worker is given. -/
  noWorker : .shutDown ∈ ops → ∀ timeout, s.pool.take timeout = .ok (none, s.pool)
  /-- After a shutdown all workers have ended once no job is running. -/
  ended : .shutDown ∈ ops → s.pool.running = [] → ∀ w ∈ s.pool.workers, w.alive = false

theorem Kept.placed (h : s.Kept) (hstarted : s.pool.started = true)
    (hshut : s.pool.shutDown = false) (hk : k < s.pool.workers.length) : s.Placed k := by
  have honce := h.sound.once_of_atRest h.rest hstarted hshut hk
  unfold Placed
  rw [← List.count_eq_zero, ← List.count_eq_zero]
  cases hruns : s.pool.runs k with
  | none =>
    simp [hruns] at honce
    obtain ⟨hidle, hhanded⟩ | ⟨hidle, hhanded⟩ :
        (s.pool.idle.count k = 1 ∧ s.handed.count k = 0) ∨
          (s.pool.idle.count k = 0 ∧ s.handed.count k = 1) := by omega
    · exact .inl ⟨hidle, hhanded, rfl⟩
    · exact .inr (.inl ⟨hidle, hhanded, rfl⟩)
  | some j =>
    simp [hruns] at honce
    exact .inr (.inr ⟨honce.1, honce.2, j, rfl⟩)

theorem Kept.longest (h : s.Kept) {timeout : Option Binary64}
    (htake : s.pool.take timeout = .ok (some i, q)) :
    i ∈ s.pool.idle ∧ ∀ k ∈ s.pool.idle, s.idleFor k ≤ s.idleFor i := by
  obtain ⟨hnone, -⟩ | ⟨i', is, hidle, hsome, -⟩ := take_eq_ok htake
  · cases hnone
  · cases hsome
    have hshut : s.pool.shutDown = false := by
      cases hp : s.pool.shutDown with
      | false => rfl
      | true => simp [take, hp] at htake
    have horder := h.order hshut
    rw [hidle] at horder ⊢
    refine ⟨List.mem_cons_self, List.forall_mem_cons.2 ⟨Nat.le_refl _, ?_⟩⟩
    exact (List.pairwise_cons.1 horder).1

theorem given_of_idle (hstarted : s.pool.started = true) (hshut : s.pool.shutDown = false)
    (hidle : s.pool.idle ≠ []) {timeout : Option Binary64} (htimeout : isNegative timeout = false) :
    ∃ i q, s.pool.take timeout = .ok (some i, q) := by
  obtain ⟨i, is, hidle⟩ := List.exists_cons_of_ne_nil hidle
  refine ⟨i, { s.pool with idle := is }, ?_⟩
  simp [take, hstarted, hshut, hidle, htimeout]

theorem Kept.accepts (h : s.Kept) (hshut : s.pool.shutDown = false) (hi : i ∈ s.handed) (j : Job) :
    ∃ q, s.pool.assign i j = .ok q := by
  obtain ⟨n, hw⟩ := h.sound.handed_waits hshut hi
  refine ⟨s.pool.onWorker i fun w => { w with pending := some j }, ?_⟩
  simp [assign, hshut, hw]

theorem Kept.total (h : s.Kept) :
    s.accepted.length = s.pool.completed + s.pool.running.length := by
  rw [← (h.sound.perm_of_atRest h.rest).length_eq, h.sound.begun, allBegun_eq]

theorem Kept.ended (h : s.Kept) (hshut : s.pool.shutDown = true) (hrunning : s.pool.running = []) :
    ∀ w ∈ s.pool.workers, w.alive = false := by
  intro w hw
  refine not_alive_of_atRest (h.rest w hw) hshut ?_
  have hnone := List.filterMap_eq_nil_iff.1 hrunning w hw
  exact Option.map_eq_none_iff.1 hnone

/-- **Conservation.** Whatever is done to a pool, in whatever order its workers come to rest, each
worker is in one place, the one that is idle longest is taken first, each accepted job is run once
and is completed or running, and after a shutdown nothing is accepted and the workers end. -/
theorem conserved_run {size : Int} {hasWork : Bool} {ops : List Operation}
    (hmake : make size hasWork = .ok p) (hrun : (initial p).Run ops s) :
    s.Conserved size.toNat ops := by
  obtain rfl : p = ofSize size.toNat := by
    unfold make at hmake
    split at hmake
    · cases hmake
    · split at hmake <;> cases hmake
      rfl
  have hkept := hrun.kept (kept_initial size.toNat)
  obtain ⟨hstarted, hshut, hlength⟩ := hrun.marks
  have hlength : s.pool.workers.length = size.toNat := hlength.trans List.length_replicate
  have hopen : .shutDown ∉ ops → s.pool.shutDown = false := fun hops => by
    simpa [initial, ofSize, hops] using hshut
  exact {
    size := hlength
    placed := fun hstart hops k hk =>
      hkept.placed (hstarted.2 (.inr hstart)) (hopen hops) (hlength ▸ hk)
    real := fun k hk =>
      hlength ▸ hk.elim (hkept.sound.idle_lt k) (hkept.sound.handed_lt k)
    given := fun hstart hops hidle _ =>
      given_of_idle (hstarted.2 (.inr hstart)) (hopen hops) hidle
    longest := fun _ _ _ => hkept.longest
    accepts := fun hops i hi => hkept.accepts (hopen hops) hi
    total := hkept.total
    once := hkept.sound.perm_of_atRest hkept.rest
    noJob := fun hops i j => by simp [assign, hshut.2 (.inr hops)]
    noWorker := fun hops timeout => by simp [take, hshut.2 (.inr hops)]
    ended := fun hops => hkept.ended (hshut.2 (.inr hops)) }

/-- Two workers: the first gets a job that waits for its gate and the second one that fails and then
another that waits; the first ends its job and is taken again, and the pool is shut down. -/
def twoWorkers : List Operation :=
  [.start, .take none, .assign 0 ⟨"a", true, false⟩, .take none, .assign 1 ⟨"b", false, true⟩,
    .take none, .assign 1 ⟨"c", true, false⟩, .finish "a", .take none, .shutDown]

theorem conserved_run_twoWorkers :
    make 2 true = .ok (ofSize 2) ∧ (initial (ofSize 2)).allowsAll twoWorkers = true ∧
      ((initial (ofSize 2)).performAll twoWorkers).accepted =
        [(0, ⟨"a", true, false⟩), (1, ⟨"b", false, true⟩), (1, ⟨"c", true, false⟩)] ∧
      ((initial (ofSize 2)).performAll twoWorkers).pool.running = ["c"] ∧
      ((initial (ofSize 2)).performAll twoWorkers).Conserved 2 twoWorkers := by
  have hmake : make 2 true = .ok (ofSize 2) := rfl
  have hops : (initial (ofSize 2)).allowsAll twoWorkers = true := by decide
  exact ⟨hmake, hops, by decide, by decide, conserved_run hmake (run_performAll hops)⟩

end Supervised

end Pool
end TrafficReplay
