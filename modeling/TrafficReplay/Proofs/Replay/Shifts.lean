import TrafficReplay.Proofs.Replay.Acceptance
import TrafficReplay.Proofs.Replay.Handing
import TrafficReplay.Proofs.Replay.Sessions
import TrafficReplay.Replay.Rehearsal

/-!
# Sessions on a pool

The workers of a pool begin and end their jobs in some order, which nobody chooses.  When the jobs
are sessions that a dispatcher hands out, each of them is run once, whatever the order: a worker
can be had whenever the dispatcher wants one, and after the shutdown the workers end with all
sessions run.

* `Pool.Turn`, `Pool.turn`: what a worker does next, as a choice that is made outside;
* `Shift`, `Shift.surroundings`: a pool at work on sessions, with the order of its turns;
* `Shift.OnDuty`: what every turn keeps;
* `Shift.serve`: a shift whose sessions all come to an outcome.
-/

namespace TrafficReplay

/-! ### Turns of workers -/

namespace Pool

/-- What a worker does next, if it can. -/
inductive Turn
  /-- It ends its job. -/
  | finish (worker : Nat)
  /-- It begins the job in its slot. -/
  | begin (worker : Nat)
  /-- It ends while it waits. -/
  | stop (worker : Nat)
  deriving DecidableEq, Repr

/-- Let a worker take its turn. -/
def turn (p : Pool) : Turn → Pool
  | .finish i => p.endRunning i
  | .begin i => p.startPending i
  | .stop i => p.endWaiting i

/-- The turns of a worker until it comes to rest. -/
def Turn.untilRest (i : Nat) : List Turn := [.finish i, .begin i, .finish i, .stop i]

/-- That every job can be ended at once. -/
def Ungated (p : Pool) : Prop :=
  ∀ w ∈ p.workers, ∀ j, w.pending = some j ∨ w.running? = some j → j.gated = false

variable {p q : Pool} {i k : Nat} {j : Job} {w : Worker} {handed : List Nat}
  {accepted : List (Nat × Job)}

theorem moves_turn (p : Pool) (t : Turn) : Moves p (p.turn t) := by
  cases t with
  | finish i => exact moves_endRunning p i
  | begin i => exact moves_startPending p i
  | stop i => exact moves_endWaiting p i

/-- Every move of a worker is the turn that it takes. -/
theorem Move.eq_turn (h : Move i p q) : ∃ t, q = p.turn t := by
  cases h with
  | begin h => exact ⟨.begin i, by simp [turn, startPending, h]⟩
  | finish h hj hp =>
    exact ⟨.finish i, by simp [turn, endRunning, h, hj, hp, endLog, onWorker, release]⟩
  | finishLast h hj hp =>
    exact ⟨.finish i, by simp [turn, endRunning, h, hj, hp, endLog, onWorker]⟩
  | stop h hp => exact ⟨.stop i, by simp [turn, endWaiting, h, hp]⟩

theorem foldl_turn_untilRest (p : Pool) :
    ((List.range p.workers.length).flatMap Turn.untilRest).foldl turn p = p.settle := by
  rw [List.foldl_flatMap]
  rfl

/-- The turns of workers are their moves, so that every order of moves is an order of turns. -/
theorem moves_iff : Moves p q ↔ ∃ ts : List Turn, q = ts.foldl turn p := by
  constructor
  · intro h
    induction h with
    | refl => exact ⟨[], rfl⟩
    | cons hmove _ ih =>
      obtain ⟨t, rfl⟩ := hmove.eq_turn
      obtain ⟨ts, rfl⟩ := ih
      exact ⟨t :: ts, rfl⟩
  · rintro ⟨ts, rfl⟩
    induction ts generalizing p with
    | nil => exact .refl p
    | cons t ts ih => exact (p.moves_turn t).trans ih

/-! ### Jobs without gates -/

theorem ungated_onWorker {f : Worker → Worker} {v : Worker} (h : p.Ungated)
    (hv : p.workers[i]? = some v)
    (hf : ∀ j, (f v).pending = some j ∨ (f v).running? = some j → j.gated = false) :
    (p.onWorker i f).Ungated := by
  intro w hw
  obtain ⟨k, hk⟩ := List.mem_iff_getElem?.1 hw
  obtain ⟨-, hk⟩ | ⟨-, v', hv', rfl⟩ := getElem?_onWorker_eq_some hk
  · exact h w (List.mem_of_getElem? hk)
  · cases hv.symm.trans hv'
    exact hf

theorem Move.ungated (hmove : Move i p q) (h : p.Ungated) : q.Ungated := by
  cases hmove with
  | begin hv =>
    have hjobs := h _ (List.mem_of_getElem? hv)
    exact ungated_onWorker h hv fun j hj => hjobs j (.inl (by simpa using hj))
  | finish hv | finishLast hv =>
    have hjobs := h _ (List.mem_of_getElem? hv)
    exact ungated_onWorker h hv fun j hj => hjobs j (.inl (by simpa using hj))
  | stop hv => exact ungated_onWorker h hv fun j hj => by simp at hj

/-- A worker at rest runs no job that can be ended at once. -/
theorem Ungated.running?_eq_none (h : p.Ungated) (hrest : p.Rested) (hw : w ∈ p.workers) :
    w.running? = none := by
  obtain ⟨pending, phase, n⟩ := w
  cases phase with
  | running j =>
    have hend : p.canEnd j = false := hrest _ hw
    have hgated : j.gated = false := h _ hw j (.inr rfl)
    rw [canEnd, hgated] at hend
    cases hend
  | notStarted | waiting | ended => rfl

theorem Ungated.running_eq_nil (h : p.Ungated) (hrest : p.Rested) : p.running = [] := by
  refine List.filterMap_eq_nil_iff.2 fun w hw => ?_
  rw [h.running?_eq_none hrest hw]
  rfl

/-! ### Loads -/

/-- A worker that has some jobs less takes them off the load of its own alone. -/
theorem load_onWorker_add {f : Worker → Worker} {v : Worker} {n : Nat}
    (hv : p.workers[i]? = some v) (hf : (f v).load + n = v.load) (k : Nat) :
    (p.onWorker i f).load k + (if k = i then n else 0) = p.load k := by
  rw [load_onWorker hv]
  by_cases hki : k = i
  · rw [if_pos hki, if_pos hki, hf, hki, load_eq hv]
  · rw [if_neg hki, if_neg hki, Nat.add_zero]

/-- To begin a job is no more load and no less. -/
theorem load_startPending (p : Pool) (i k : Nat) : (p.startPending i).load k = p.load k := by
  unfold startPending
  split
  · rename_i j n hv
    have hload := @load_onWorker_add p i (fun _ => ⟨none, .running j, n⟩) _ 0 hv rfl k
    rwa [ite_self, Nat.add_zero] at hload
  · rfl

theorem load_endWaiting (p : Pool) (i k : Nat) : (p.endWaiting i).load k = p.load k := by
  unfold endWaiting
  split
  · rename_i n hv
    split
    · have hload := @load_onWorker_add p i (fun _ => ⟨none, .ended, n⟩) _ 0 hv rfl k
      rwa [ite_self, Nat.add_zero] at hload
    · rfl
  · rfl

/-- Whether a worker runs a job that it can end. -/
def ends (p : Pool) (i : Nat) : Bool := (p.runs i).any p.canEnd

/-- A worker that ends its job has one job less. -/
theorem load_endRunning (h : p.ends i = true) (k : Nat) :
    (p.endRunning i).load k + (if k = i then 1 else 0) = p.load k := by
  unfold ends runs at h
  obtain ⟨j, hj, hend⟩ := (Option.any_eq_true _ _).1 h
  obtain ⟨⟨pending, phase, n⟩, hv, hrun⟩ := Option.bind_eq_some_iff.1 hj
  cases phase with
  | running j' =>
    cases hrun
    simp only [endRunning, hv, hend, if_true]
    split
    · exact @load_onWorker_add p i (fun _ => ⟨pending, .ended, n + 1⟩) _ 1 hv rfl k
    · exact @load_onWorker_add p i (fun _ => ⟨pending, .waiting, n + 1⟩) _ 1 hv rfl k
  | notStarted | waiting | ended => cases hrun

theorem endRunning_of_not_ends (h : p.ends i = false) : p.endRunning i = p := by
  unfold endRunning
  split
  · rename_i hv
    rw [ends, runs, hv] at h
    rw [if_neg (by simpa using h)]
  · rfl

/-! ### Pools with workers -/

/-- A pool that has been started with some workers and has accepted a number of jobs, none with a
gate, when `handed` are the workers that are handed out. -/
structure Manned (p : Pool) (handed : List Nat) (jobs : Nat) : Prop where
  sound : ∃ accepted, p.Sound handed accepted ∧ accepted.length = jobs
  size : 0 < p.workers.length
  started : p.started = true
  free : p.Ungated

variable {jobs : Nat}

theorem manned_start {size : Nat} (hsize : 0 < size) : (ofSize size).start.Manned [] 0 where
  sound := ⟨[], (sound_ofSize size).start, rfl⟩
  size := by simpa [start, ofSize] using hsize
  started := rfl
  free := by
    intro w hw j hj
    obtain rfl := Watched.mem_workers_start hw
    simp at hj

theorem Manned.moves (h : p.Manned handed jobs) (hmoves : Moves p q) : q.Manned handed jobs := by
  obtain ⟨accepted, hsound, hjobs⟩ := h.sound
  obtain ⟨-, hstarted, -, hlength⟩ := hmoves.marks
  have hsound := hmoves.preserve (P := fun p => p.Sound handed accepted)
    (fun _ _ _ hmove => Sound.move hmove) hsound
  exact
    { sound := ⟨accepted, hsound, hjobs⟩
      size := hlength.symm ▸ h.size
      started := hstarted.trans h.started
      free := hmoves.preserve (fun _ _ _ hmove => hmove.ungated) h.free }

/-- Unless it is shut down, a pool that has come to rest has an idle worker. -/
theorem Manned.idle_ne_nil (h : p.Manned [] jobs) (hrest : p.Rested) (hshut : p.shutDown = false) :
    p.idle ≠ [] := by
  obtain ⟨accepted, hsound, -⟩ := h.sound
  have honce := hsound.once_of_atRest hrest h.started hshut h.size
  have hruns : p.runs 0 = none := by
    rw [runs, List.getElem?_eq_getElem h.size, Option.bind_some]
    exact h.free.running?_eq_none hrest (List.getElem_mem h.size)
  intro hidle
  simp [hidle, hruns] at honce

/-- A worker that is idle can be taken. -/
theorem Manned.take (h : p.Manned [] jobs) (hshut : p.shutDown = false) (hidle : p.idle ≠ []) :
    ∃ i is, p.take none = .ok (some i, { p with idle := is }) ∧
      Manned { p with idle := is } [i] jobs := by
  obtain ⟨i, is, hidle⟩ := List.exists_cons_of_ne_nil hidle
  have htake : p.take none = .ok (some i, { p with idle := is }) := by
    simp [Pool.take, isNegative, h.started, hshut, hidle]
  obtain ⟨accepted, hsound, hjobs⟩ := h.sound
  exact ⟨i, is, htake, { h with sound := ⟨accepted, hsound.take htake, hjobs⟩ }⟩

/-- The worker that was taken accepts a job, and has had none. -/
theorem Manned.assign (h : p.Manned [i] jobs) (hshut : p.shutDown = false) (hj : j.gated = false) :
    ∃ n, p.workers[i]? = some ⟨none, .waiting, n⟩ ∧
      p.assign i j = .ok (p.onWorker i fun v => { v with pending := some j }) ∧
      (p.onWorker i fun v => { v with pending := some j }).Manned [] (jobs + 1) := by
  obtain ⟨accepted, hsound, rfl⟩ := h.sound
  obtain ⟨n, hv⟩ := hsound.handed_waits hshut List.mem_cons_self
  have hassign : p.assign i j = .ok (p.onWorker i fun v => { v with pending := some j }) := by
    simp [Pool.assign, hshut, hv]
  have hgiven := hsound.assign List.mem_cons_self hassign
  rw [List.erase_cons_head] at hgiven
  refine ⟨n, hv, hassign, ?_⟩
  exact
    { sound := ⟨_, hgiven, by simp⟩
      size := by simpa using h.size
      started := h.started
      free := ungated_onWorker h.free hv fun j' hj' => by
        obtain hj' | hj' := hj' <;> cases hj'
        exact hj }

theorem Manned.shutDown (h : p.Manned [] jobs) : Manned { p with shutDown := true } [] jobs := by
  obtain ⟨accepted, hsound, hjobs⟩ := h.sound
  have hshut := @Sound.act { p with shutDown := true } ⟨p, [], [], accepted⟩ .shutDown none hsound
    rfl rfl
  exact { h with sound := ⟨accepted, hshut, hjobs⟩ }

/-- At rest workers have no jobs. -/
theorem Manned.load_eq_zero (h : p.Manned handed jobs) (hrest : p.Rested) (k : Nat) :
    p.load k = 0 := by
  obtain ⟨accepted, hsound, -⟩ := h.sound
  cases hw : p.workers[k]? with
  | none => rw [load, hw]; rfl
  | some w =>
    have hmem := List.mem_of_getElem? hw
    have hpending := (hsound.fit k w hw).pending_eq_none_of_atRest (hrest w hmem)
    rw [load_eq hw, Worker.load, hpending, h.free.running?_eq_none hrest hmem]
    rfl

/-- At rest all accepted jobs are completed. -/
theorem Manned.completed_eq (h : p.Manned handed jobs) (hrest : p.Rested) : p.completed = jobs := by
  obtain ⟨accepted, hsound, rfl⟩ := h.sound
  have hrunning : p.running = [] := h.free.running_eq_nil hrest
  rw [← (hsound.perm_of_atRest hrest).length_eq, hsound.begun, allBegun_eq, hrunning]
  rfl

end Pool

/-! ### Shifts -/

/-- A pool at work on sessions. -/
structure Shift (ρ : Type) where
  clock : Clock
  /-- The readings of the stopwatch to come. -/
  readings : List Binary64
  pool : Pool
  /-- The worker that was taken last. -/
  taken : Nat
  /-- The items that workers have in their slots or run, each with its worker. -/
  given : List (Nat × WorkItem)
  /-- The turns that the workers take before the dispatcher takes its next one, and so on. -/
  turns : List (List Pool.Turn)
  tally : Tally
  peer : ρ

namespace Shift

variable {ρ : Type} (context : RunContext ρ)

/-- A pool before its first session. -/
def ofPool (pool : Pool) (turns : List (List Pool.Turn)) (clock : Clock)
    (readings : List Binary64) (peer : ρ) : Shift ρ where
  clock := clock
  readings := readings
  pool := pool
  taken := 0
  given := []
  turns := turns
  tally := .zero
  peer := peer

/-- Take account of the item that a worker has run. A run that was stopped counts for nothing. -/
def account (i : Nat) (s : Shift ρ) : Shift ρ :=
  match s.given.find? (·.1 = i) with
  | none => s
  | some (_, w) =>
    let (r, run) := runSession context w s.peer
    { s with
      given := s.given.eraseP (·.1 = i)
      tally := match r with
        | .ok r => s.tally.add r
        | .error _ => s.tally
      peer := run.peer }

/-- Let a worker take its turn; its item counts when it ends. -/
def turn (s : Shift ρ) (t : Pool.Turn) : Shift ρ :=
  let accounted := match t with
    | .finish i => if s.pool.ends i then s.account context i else s
    | .begin _ | .stop _ => s
  { accounted with pool := s.pool.turn t }

/-- Let workers take turns. -/
def go (s : Shift ρ) (ts : List Pool.Turn) : Shift ρ := ts.foldl (turn context) s

/-- Let workers take turns for as long as they do before the dispatcher does. -/
def goOn (s : Shift ρ) : Shift ρ := { s.go context (s.turns.headD []) with turns := s.turns.tail }

/-- Let all workers take turns until they come to rest. -/
def settle (s : Shift ρ) : Shift ρ :=
  s.go context ((List.range s.pool.workers.length).flatMap Pool.Turn.untilRest)

/-- Let workers take turns for as long as they do, and until one is idle. -/
def await (s : Shift ρ) : Shift ρ :=
  let s := s.goOn context
  if s.pool.idle.isEmpty then s.settle context else s

/-- Wait for a worker. -/
def take (timeout : Option Binary64) (s : Shift ρ) : Except PoolFault Bool × Shift ρ :=
  let s := s.await context
  match s.pool.take timeout with
  | .ok (some i, pool) => (.ok true, { s with pool, taken := i })
  | .ok (none, pool) => (.ok false, { s with pool })
  | .error f => (.error f, s)

/-- Give an item to the worker that was taken. -/
def assign (w : WorkItem) (s : Shift ρ) : Shift ρ :=
  match s.pool.assign s.taken ⟨w.describe, false, false⟩ with
  | .ok pool => { s with pool, given := s.given ++ [(s.taken, w)] }
  | .error _ => s

/-- Shut the pool down. -/
def shutDown (s : Shift ρ) : Shift ρ := { s with pool := { s.pool with shutDown := true } }

/-- A pool at work on sessions as surroundings of a dispatcher. -/
def surroundings : Surroundings (Shift ρ) where
  now s := let (t, clock) := s.clock.read; (t, { s with clock })
  sleep d s := { s with clock := s.clock.sleep d }
  takeWorker := take context
  assign := assign
  finish s := (s.shutDown.goOn context).settle context
  stopwatch s :=
    match s.readings with
    | [] => (.zero false, s)
    | x :: xs => (x, { s with readings := xs })

variable {context} {mode : RunMode} {good : ρ → Prop} {s t : Shift ρ} {handed : List Nat}
  {l : List Session} {i : Nat} {w : WorkItem}

/-- A shift that has been given some sessions, when `handed` are the workers that are taken and not
given one since: each session has been counted or is in the books as the one job of a worker. -/
structure OnDuty (context : RunContext ρ) (good : ρ → Prop) (s : Shift ρ) (handed : List Nat)
    (l : List Session) : Prop where
  manned : s.pool.Manned handed l.length
  fit : ∀ x ∈ s.given, x.2.session.Fits context.buffer
  given : ∀ k, s.given.countP (·.1 = k) = s.pool.load k
  peer : good s.peer
  books : ∃ done, s.tally.Counts context.settings.mode done ∧
    (done ++ s.given.map (·.2.session)).Perm l

/-! ### Turns -/

theorem go_pool (s : Shift ρ) (ts : List Pool.Turn) :
    (s.go context ts).pool = ts.foldl Pool.turn s.pool := by
  unfold go
  induction ts generalizing s with
  | nil => rfl
  | cons t ts ih => exact ih _

theorem settle_pool (s : Shift ρ) : (s.settle context).pool = s.pool.settle :=
  (go_pool _ _).trans s.pool.foldl_turn_untilRest

/-- An item that comes to an end is counted. -/
theorem account_eq (hpeer : context.peer.Orderly good) (hgood : good s.peer)
    {before after : List (Nat × WorkItem)} (hgiven : s.given = before ++ (i, w) :: after)
    (hbefore : ∀ x ∈ before, x.1 ≠ i) (hw : w.session.Fits context.buffer) :
    ∃ r peer, s.account context i =
        { s with given := before ++ after, tally := s.tally.add r, peer } ∧ good peer ∧
      (r.outcome = .skipped ↔ w.session.isLeftOut context.settings.mode = true) := by
  obtain ⟨r, run, hrun, hgood, hskipped⟩ := runSession_ends hpeer hw hgood
  have hfind : s.given.find? (·.1 = i) = some (i, w) := by
    refine List.find?_eq_some_iff_append.2 ⟨by simp, before, after, hgiven, fun x hx => ?_⟩
    simpa using hbefore x hx
  have herase : s.given.eraseP (·.1 = i) = before ++ after := by
    rw [hgiven, List.eraseP_append_right _ (by simpa using hbefore),
      List.eraseP_cons_of_pos (by simp)]
  refine ⟨r, run.peer, ?_, hgood, hskipped⟩
  simp only [account, hfind, hrun, herase]

/-- A turn that ends no job keeps the books. -/
theorem OnDuty.idle (h : s.OnDuty context good handed l) {q : Pool} (hmoves : Pool.Moves s.pool q)
    (hload : ∀ k, q.load k = s.pool.load k) :
    OnDuty context good { s with pool := q } handed l :=
  { h with
    manned := h.manned.moves hmoves
    given := fun k => (h.given k).trans (hload k).symm }

/-- A worker that ends its job has run its item, which is counted. -/
theorem OnDuty.account (hpeer : context.peer.Orderly good) (h : s.OnDuty context good handed l)
    (hends : s.pool.ends i = true) :
    OnDuty context good { s.account context i with pool := s.pool.endRunning i } handed l := by
  have hload := Pool.load_endRunning hends
  have hpos : 0 < s.given.countP (·.1 = i) := by
    rw [h.given, ← hload i, if_pos rfl]
    exact Nat.succ_pos _
  obtain ⟨x, hx, hxi⟩ := List.countP_pos_iff.1 hpos
  obtain ⟨⟨k, w⟩, before, after, hbefore, hk, hgiven, -⟩ :=
    @List.exists_of_eraseP _ (·.1 = i) s.given x hx hxi
  obtain rfl : k = i := by simpa using hk
  have hw : w.session.Fits context.buffer := h.fit (k, w) (by simp [hgiven])
  obtain ⟨r, peer, haccount, hgood, hskipped⟩ :=
    account_eq hpeer h.peer hgiven (by simpa using hbefore) hw
  obtain ⟨done, hdone, hbooks⟩ := h.books
  rw [haccount]
  exact
    { manned := h.manned.moves (Pool.moves_endRunning s.pool k)
      fit := fun x hx => h.fit x <| by
        rw [hgiven]
        exact List.mem_append.2 ((List.mem_append.1 hx).imp_right (List.mem_cons_of_mem _))
      given := fun j => by
        have hcount := h.given j
        rw [hgiven, List.countP_append, List.countP_cons, ← hload j] at hcount
        simp only [decide_eq_true_eq, eq_comm (a := k)] at hcount
        show (before ++ after).countP (·.1 = j) = (s.pool.endRunning k).load j
        rw [List.countP_append]
        omega
      peer := hgood
      books := by
        refine ⟨done ++ [w.session], hdone.add hskipped, .trans ?_ hbooks⟩
        rw [hgiven, List.append_assoc, List.map_append, List.map_append, List.map_cons,
          List.singleton_append]
        exact List.Perm.append_left done List.perm_middle.symm }

theorem OnDuty.turn (hpeer : context.peer.Orderly good) (h : s.OnDuty context good handed l)
    (t : Pool.Turn) : (s.turn context t).OnDuty context good handed l := by
  have hmoves := s.pool.moves_turn t
  cases t with
  | finish i =>
    unfold Shift.turn
    dsimp only
    split
    · exact h.account hpeer ‹_›
    · rename_i hends
      refine h.idle hmoves fun k => ?_
      rw [Pool.turn, Pool.endRunning_of_not_ends (by simpa using hends)]
  | begin i => exact h.idle hmoves (s.pool.load_startPending i)
  | stop i => exact h.idle hmoves (s.pool.load_endWaiting i)

theorem OnDuty.go (hpeer : context.peer.Orderly good) (h : s.OnDuty context good handed l)
    (ts : List Pool.Turn) : (s.go context ts).OnDuty context good handed l := by
  unfold Shift.go
  induction ts generalizing s with
  | nil => exact h
  | cons t ts ih => exact ih (h.turn hpeer t)

theorem OnDuty.goOn (hpeer : context.peer.Orderly good) (h : s.OnDuty context good handed l) :
    (s.goOn context).OnDuty context good handed l :=
  { h.go hpeer (s.turns.headD []) with }

theorem OnDuty.settle (hpeer : context.peer.Orderly good) (h : s.OnDuty context good handed l) :
    (s.settle context).OnDuty context good handed l :=
  h.go hpeer _

theorem shutDown_go (s : Shift ρ) (ts : List Pool.Turn) :
    (s.go context ts).pool.shutDown = s.pool.shutDown := by
  rw [go_pool]
  exact (Pool.moves_iff.2 ⟨ts, rfl⟩).marks.1

theorem rested_settle (s : Shift ρ) : (s.settle context).pool.Rested := by
  rw [settle_pool]
  exact s.pool.rested_settle

/-! ### The turn of the dispatcher -/

/-- A worker can be had, if not at once then when all workers have come to rest. -/
theorem OnDuty.await (hpeer : context.peer.Orderly good) (h : s.OnDuty context good [] l)
    (hshut : s.pool.shutDown = false) :
    (s.await context).OnDuty context good [] l ∧ (s.await context).pool.shutDown = false ∧
      (s.await context).pool.idle ≠ [] := by
  have hfirst := h.goOn hpeer
  have hopen : (s.goOn context).pool.shutDown = false := (shutDown_go s _).trans hshut
  unfold Shift.await
  dsimp only
  split
  · have hduty := hfirst.settle hpeer
    have hopen : ((s.goOn context).settle context).pool.shutDown = false :=
      (shutDown_go _ _).trans hopen
    exact ⟨hduty, hopen, hduty.manned.idle_ne_nil (rested_settle _) hopen⟩
  · rename_i hidle
    exact ⟨hfirst, hopen, by simpa using hidle⟩

/-- The worker that is had is taken. -/
theorem OnDuty.take (hpeer : context.peer.Orderly good) (h : s.OnDuty context good [] l)
    (hshut : s.pool.shutDown = false) :
    ∃ t, s.take context none = (.ok true, t) ∧ t.OnDuty context good [t.taken] l ∧
      t.pool.shutDown = false := by
  obtain ⟨hduty, hopen, hidle⟩ := h.await hpeer hshut
  unfold Shift.take
  dsimp only
  generalize s.await context = t at hduty hopen hidle
  obtain ⟨i, is, htake, htaken⟩ := hduty.manned.take hopen hidle
  rw [htake]
  exact ⟨_, rfl, { hduty with manned := htaken }, hopen⟩

/-- An item is given to the worker that was taken. -/
theorem OnDuty.assign (h : s.OnDuty context good [s.taken] l) (hshut : s.pool.shutDown = false)
    (hw : w.session.Fits context.buffer) :
    (s.assign w).OnDuty context good [] (l ++ [w.session]) ∧
      (s.assign w).pool.shutDown = false := by
  obtain ⟨n, hv, hassign, hgiven⟩ :=
    @Pool.Manned.assign _ _ ⟨w.describe, false, false⟩ _ h.manned hshut rfl
  unfold Shift.assign
  rw [hassign]
  obtain ⟨done, hdone, hbooks⟩ := h.books
  refine ⟨?_, hshut⟩
  exact
    { manned := by
        rw [List.length_append]
        exact hgiven
      fit := by
        intro x hx
        obtain hx | hx := List.mem_append.1 hx
        · exact h.fit x hx
        · rw [List.mem_singleton.1 hx]
          exact hw
      given := fun k => by
        rw [List.countP_append, h.given, Pool.load_onWorker hv]
        split
        · rename_i hk
          rw [hk, Pool.load_eq hv]
          simp [Worker.load]
        · rename_i hk
          simp [Ne.symm hk]
      peer := h.peer
      books := by
        refine ⟨done, hdone, ?_⟩
        rw [List.map_append, ← List.append_assoc]
        exact hbooks.append_right _ }

/-! ### The end of a shift -/

/-- A shift whose workers have ended, with all its sessions run. -/
structure Over (mode : RunMode) (s : Shift ρ) (l : List Session) : Prop where
  tally : s.tally.Counts mode l
  completed : s.pool.completed = l.length
  ended : ∀ w ∈ s.pool.workers, w.alive = false

/-- After the shutdown the workers run what they have been given, and end. -/
theorem OnDuty.over (h : s.OnDuty context good [] l) (hrest : s.pool.Rested)
    (hshut : s.pool.shutDown = true) : s.Over context.settings.mode l := by
  obtain ⟨done, hdone, hbooks⟩ := h.books
  have hgiven : s.given = [] := by
    refine List.eq_nil_iff_forall_not_mem.2 fun x hx => ?_
    have hpos : 0 < s.given.countP (·.1 = x.1) := List.countP_pos_iff.2 ⟨x, hx, by simp⟩
    rw [h.given, h.manned.load_eq_zero hrest] at hpos
    exact Nat.lt_irrefl 0 hpos
  rw [hgiven, List.map_nil, List.append_nil] at hbooks
  exact
    { tally := hdone.perm hbooks
      completed := h.manned.completed_eq hrest
      ended := fun w hw =>
        Pool.not_alive_of_atRest (hrest w hw) hshut (h.manned.free.running?_eq_none hrest hw) }

/-- A pool that starts is on duty. -/
theorem onDuty_ofPool {size : Nat} (hsize : 0 < size) (turns : List (List Pool.Turn))
    (clock : Clock) (readings : List Binary64) {peer : ρ} (hpeer : good peer) :
    (ofPool (Pool.ofSize size).start turns clock readings peer).OnDuty context good [] [] where
  manned := Pool.manned_start hsize
  fit _ h := absurd h List.not_mem_nil
  given := by
    intro k
    unfold Pool.load
    cases hw : (Pool.ofSize size).start.workers[k]? with
    | none => simp [ofPool, hw]
    | some w =>
      obtain rfl := Pool.Watched.mem_workers_start (List.mem_of_getElem? hw)
      simp [ofPool, hw, Worker.load]
  peer := hpeer
  books := ⟨[], ⟨rfl, rfl⟩, .refl _⟩

/-- Without a timeout no worker is wanting, whatever turns the workers take, and every session comes
to an outcome. -/
theorem serve (hpeer : context.peer.Orderly good) :
    (surroundings context).Serve none (Session.Fits context.buffer)
      (fun s l => s.OnDuty context good [] l ∧ s.pool.shutDown = false)
      (Over context.settings.mode) where
  now h := ⟨{ h.1 with }, h.2⟩
  sleep d h := ⟨{ h.1 with }, h.2⟩
  hand := by
    intro s l h
    obtain ⟨t, htake, hduty, hopen⟩ := h.1.take hpeer h.2
    exact ⟨t, htake, fun w hw => hduty.assign hopen hw⟩
  finish := by
    intro s l h
    have hshut : s.shutDown.OnDuty context good [] l := { h.1 with manned := h.1.manned.shutDown }
    have hduty := (hshut.goOn hpeer).settle hpeer
    exact hduty.over (rested_settle _) ((shutDown_go _ _).trans (shutDown_go _ _))
  stopwatch := by
    intro s l h
    unfold surroundings
    dsimp only
    split
    · exact h
    · exact ⟨{ h.1 with }, h.2⟩
  stopwatch_ended := by
    intro s l h
    unfold surroundings
    dsimp only
    split
    · exact h
    · exact { h with }

end Shift

end TrafficReplay
