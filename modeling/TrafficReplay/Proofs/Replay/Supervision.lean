import TrafficReplay.Proofs.Replay.Settling

/-!
# Who has which worker

Someone who gives out the work of a pool takes a worker and gives it one job. The books that one can
keep on that are which workers are handed out and which jobs were accepted; they agree with the pool
after every operation.

* `Pool.Supervised`, `Pool.Supervised.Run`: a pool with the books on it, and what may come of
  operations;
* `Pool.Sound`: that a pool agrees with the books;
* `Pool.Sound.move`, `Pool.Sound.act`: moves of workers and operations keep it so.
-/

namespace TrafficReplay

namespace Worker

@[simp] theorem running?_running (pending : Option Job) (j : Job) (n : Nat) :
    running? ⟨pending, .running j, n⟩ = some j := rfl

@[simp] theorem running?_waiting (pending : Option Job) (n : Nat) :
    running? ⟨pending, .waiting, n⟩ = none := rfl

@[simp] theorem running?_ended (pending : Option Job) (n : Nat) :
    running? ⟨pending, .ended, n⟩ = none := rfl

/-- How many jobs a worker has, in its slot or running. -/
def load (w : Worker) : Nat := w.pending.toList.length + w.running?.toList.length

/-- How many jobs a worker has begun. -/
def begun (w : Worker) : Nat := w.completed + w.running?.toList.length

/-- How many jobs some workers have begun. -/
def allBegun (ws : List Worker) : Nat := ws.foldr (fun w n => w.begun + n) 0

theorem allBegun_eq_zero {ws : List Worker} (h : ∀ w ∈ ws, w.begun = 0) : allBegun ws = 0 := by
  induction ws with
  | nil => rfl
  | cons w ws ih =>
    obtain ⟨hw, hws⟩ := List.forall_mem_cons.1 h
    rw [allBegun, List.foldr_cons, hw, Nat.zero_add]
    exact ih hws

theorem allBegun_modify (f : Worker → Worker) {ws : List Worker} {i : Nat} {v : Worker}
    (h : ws[i]? = some v) :
    allBegun (ws.modify i f) + v.begun = allBegun ws + (f v).begun := by
  induction ws generalizing i with
  | nil => simp at h
  | cons w ws ih =>
    cases i with
    | zero =>
      simp at h
      simp [allBegun, h]
      omega
    | succ i =>
      have hrest := ih (i := i) (by simpa using h)
      simp [allBegun] at hrest ⊢
      omega

end Worker

namespace Pool

/-- A pool with the books of someone who gives out its work. -/
structure Supervised where
  pool : Pool
  /-- What the pool was before each operation, the latest first. -/
  past : List Pool
  /-- The workers that were taken and not given a job since. -/
  handed : List Nat
  /-- The jobs that were accepted, in order, each with its worker. -/
  accepted : List (Nat × Job)

/-- The workers that are handed out after an operation that gave an answer. -/
def handedAfter (handed : List Nat) : Operation → Option Nat → List Nat
  | .assign i _, _ => handed.erase i
  | _, some i => i :: handed
  | _, none => handed

/-- The jobs that were accepted after an operation that was not refused. -/
def acceptedAfter (accepted : List (Nat × Job)) : Operation → List (Nat × Job)
  | .assign i j => accepted ++ [(i, j)]
  | _ => accepted

namespace Supervised

/-- The books on a pool before all operations. -/
def initial (p : Pool) : Supervised := ⟨p, [], [], []⟩

/-- Whether an operation gives a job only to a worker that is handed out, and leaves it to the
workers to become idle. -/
def allows (s : Supervised) : Operation → Bool
  | .assign i _ => s.handed.contains i
  | .release _ => false
  | _ => true

/-- What may come of an operation: the workers come to rest by whatever moves in whatever order. -/
inductive Step (s : Supervised) (o : Operation) : Supervised → Prop
  | done {r : Option Nat} {p q : Pool} (hact : s.pool.act o = .ok (r, p)) (hmoves : Moves p q)
      (hrest : q.Rested) :
      Step s o ⟨q, s.pool :: s.past, handedAfter s.handed o r, acceptedAfter s.accepted o⟩
  | refused {f : PoolFault} (hact : s.pool.act o = .error f) :
      Step s o { s with past := s.pool :: s.past }

/-- What may come of operations one after another, all of them allowed. -/
inductive Run : Supervised → List Operation → Supervised → Prop
  | nil (s : Supervised) : Run s [] s
  | cons {s t u : Supervised} {o : Operation} {ops : List Operation} (ho : s.allows o = true)
      (hstep : Step s o t) (hrun : Run t ops u) : Run s (o :: ops) u

/-! ### The run of a pool that settles -/

/-- Do something to the pool and note it. -/
def perform (s : Supervised) (o : Operation) : Supervised :=
  match s.pool.perform o with
  | (.ok r, q) => ⟨q, s.pool :: s.past, handedAfter s.handed o r, acceptedAfter s.accepted o⟩
  | (.error _, q) => { s with pool := q, past := s.pool :: s.past }

/-- Do things to the pool one after another. -/
def performAll (s : Supervised) (ops : List Operation) : Supervised := ops.foldl perform s

/-- Whether operations are allowed one after another. -/
def allowsAll (s : Supervised) : List Operation → Bool
  | [] => true
  | o :: ops => s.allows o && (s.perform o).allowsAll ops

theorem step_perform (s : Supervised) (o : Operation) : s.Step o (s.perform o) := by
  unfold perform Pool.perform
  cases hact : s.pool.act o with
  | ok x => exact .done hact (moves_settle x.2) (rested_settle x.2)
  | error f => exact .refused hact

/-- What the pool does when it settles is one of the things that may come of the operations. -/
theorem run_performAll {s : Supervised} {ops : List Operation} (hops : s.allowsAll ops = true) :
    s.Run ops (s.performAll ops) := by
  induction ops generalizing s with
  | nil => exact .nil s
  | cons o ops ih =>
    obtain ⟨ho, hops⟩ := (Bool.and_eq_true _ _).mp hops
    exact .cons ho (s.step_perform o) (ih hops)

end Supervised

/-! ### Workers one by one -/

variable {p q : Pool} {i k : Nat} {w : Worker}

/-- The job in the slot of a worker. -/
def slot (p : Pool) (i : Nat) : Option Job := (p.workers[i]?).bind Worker.pending

theorem getElem?_onWorker_eq_some {f : Worker → Worker}
    (h : (p.onWorker i f).workers[k]? = some w) :
    (k ≠ i ∧ p.workers[k]? = some w) ∨ (k = i ∧ ∃ v, p.workers[i]? = some v ∧ f v = w) := by
  by_cases hki : k = i
  · subst hki
    rw [getElem?_onWorker_self, Option.map_eq_some_iff] at h
    exact .inr ⟨rfl, h⟩
  · rw [getElem?_onWorker_of_ne p f hki] at h
    exact .inl ⟨hki, h⟩

@[simp] theorem length_onWorker (p : Pool) (i : Nat) (f : Worker → Worker) :
    (p.onWorker i f).workers.length = p.workers.length :=
  List.length_modify ..

/-- How many jobs a worker has, in its slot or running. -/
def load (p : Pool) (k : Nat) : Nat := p.workers[k]?.elim 0 Worker.load

theorem load_onWorker {f : Worker → Worker} {v : Worker} (hv : p.workers[i]? = some v) (k : Nat) :
    (p.onWorker i f).load k = if k = i then (f v).load else p.load k := by
  unfold load
  by_cases hki : k = i
  · subst hki
    rw [getElem?_onWorker_self, hv, if_pos rfl]
    rfl
  · rw [getElem?_onWorker_of_ne p f hki, if_neg hki]

theorem load_eq {v : Worker} (hv : p.workers[i]? = some v) : p.load i = v.load := by
  rw [load, hv]
  rfl

/-- How often a job is in the slot of its worker. -/
def held (p : Pool) (x : Nat × Job) : Nat := if p.slot x.1 = some x.2 then 1 else 0

/-- A change of a worker takes what was in its slot away from the jobs that are held and adds what
is in it then. -/
theorem held_onWorker {f : Worker → Worker} {v : Worker} (h : p.workers[i]? = some v)
    (x : Nat × Job) :
    (p.onWorker i f).held x + (v.pending.toList.map (i, ·)).count x =
      p.held x + ((f v).pending.toList.map (i, ·)).count x := by
  obtain ⟨k, l⟩ := x
  unfold held slot
  by_cases hki : k = i
  · subst hki
    rw [getElem?_onWorker_self, h, Option.map_some, Option.bind_some, Option.bind_some]
    cases v.pending <;> cases (f v).pending <;> simp [List.count_singleton, Nat.add_comm]
  · rw [getElem?_onWorker_of_ne p f hki]
    cases v.pending <;> cases (f v).pending <;> simp [Ne.symm hki]

/-! ### Jobs that begin -/

/-- A move takes a job from a slot to the jobs that were begun, or leaves both alone. -/
theorem Move.ledger (h : Move i p q) (x : Nat × Job) :
    q.ran.count x + q.held x = p.ran.count x + p.held x := by
  cases h with
  | @begin j n hv =>
    have hheld := @held_onWorker p i (fun _ => ⟨none, .running j, n⟩) _ hv x
    simp at hheld
    rw [List.count_append, Nat.add_assoc]
    exact congrArg _ ((Nat.add_comm _ _).trans hheld)
  | @finish pending j n hv =>
    have hheld := @held_onWorker p i (fun _ => ⟨pending, .waiting, n + 1⟩) _ hv x
    exact congrArg _ (Nat.add_right_cancel hheld)
  | @finishLast pending j n hv =>
    have hheld := @held_onWorker p i (fun _ => ⟨pending, .ended, n + 1⟩) _ hv x
    exact congrArg _ (Nat.add_right_cancel hheld)
  | @stop n hv =>
    have hheld := @held_onWorker p i (fun _ => ⟨none, .ended, n⟩) _ hv x
    exact congrArg _ (Nat.add_right_cancel hheld)

/-- A move begins a job and records it, or does neither. -/
theorem Move.begun (h : Move i p q) :
    q.ran.length + Worker.allBegun p.workers = p.ran.length + Worker.allBegun q.workers := by
  cases h with
  | @begin j n hv =>
    have hsum := Worker.allBegun_modify (fun _ => ⟨none, .running j, n⟩) hv
    simp [Worker.begun] at hsum
    simp [onWorker]
    omega
  | @finish pending j n hv =>
    have hsum := Worker.allBegun_modify (fun _ => ⟨pending, .waiting, n + 1⟩) hv
    simp [Worker.begun] at hsum
    simp [onWorker, release]
    omega
  | @finishLast pending j n hv =>
    have hsum := Worker.allBegun_modify (fun _ => ⟨pending, .ended, n + 1⟩) hv
    simp [Worker.begun] at hsum
    simp [onWorker]
    omega
  | @stop n hv =>
    have hsum := Worker.allBegun_modify (fun _ => ⟨none, .ended, n⟩) hv
    simp [Worker.begun] at hsum
    simp [onWorker]
    omega

/-! ### The books agree with the pool -/

/-- What a worker is like, when `handed` are the workers that are handed out. -/
structure Fit (p : Pool) (handed : List Nat) (k : Nat) (w : Worker) : Prop where
  fresh : p.started = false → w = .fresh
  awake : p.started = true → w.phase ≠ .notStarted
  going : p.shutDown = false → w.phase ≠ .ended
  slot : w.pending ≠ none → w.phase = .waiting
  once : p.started = true → p.shutDown = false →
    p.idle.count k + handed.count k + w.load = 1

/-- That a pool agrees with the books on it. -/
structure Sound (p : Pool) (handed : List Nat) (accepted : List (Nat × Job)) : Prop where
  fit : ∀ k w, p.workers[k]? = some w → p.Fit handed k w
  idle_lt : ∀ k ∈ p.idle, k < p.workers.length
  handed_lt : ∀ k ∈ handed, k < p.workers.length
  quiet : p.started = false → p.idle = [] ∧ handed = []
  ledger : ∀ x, p.ran.count x + p.held x = accepted.count x
  begun : p.ran.length = Worker.allBegun p.workers

variable {handed handed' : List Nat} {accepted : List (Nat × Job)}

/-- What a worker is like depends on the marks of the pool and on how often it is idle or handed
out. -/
theorem Fit.congr (h : p.Fit handed k w) (hstarted : q.started = p.started)
    (hshut : q.shutDown = p.shutDown)
    (hcount : q.idle.count k + handed'.count k = p.idle.count k + handed.count k) :
    q.Fit handed' k w where
  fresh hq := h.fresh (hstarted ▸ hq)
  awake hq := h.awake (hstarted ▸ hq)
  going hq := h.going (hshut ▸ hq)
  slot := h.slot
  once hq hq' := by rw [hcount, h.once (hstarted ▸ hq) (hshut ▸ hq')]

/-- What a worker of a pool that is started has to be like. -/
theorem Fit.of_started (hstarted : p.started = true) (hawake : w.phase ≠ .notStarted)
    (hgoing : p.shutDown = false → w.phase ≠ .ended)
    (hslot : w.pending ≠ none → w.phase = .waiting)
    (honce : p.shutDown = false → p.idle.count k + handed.count k + w.load = 1) :
    p.Fit handed k w where
  fresh hp := absurd (hp.symm.trans hstarted) Bool.false_ne_true
  awake _ := hawake
  going := hgoing
  slot := hslot
  once _ := honce

/-- A worker that has ended after a shutdown is as it should be. -/
theorem Fit.of_ended (hstarted : p.started = true) (hshut : p.shutDown = true) (n : Nat) :
    p.Fit handed k ⟨none, .ended, n⟩ :=
  .of_started hstarted (by simp) (by simp [hshut]) (by simp) (by simp [hshut])

/-- A worker that is not fresh has been started. -/
theorem Fit.started (h : p.Fit handed k w) (hw : w.phase ≠ .notStarted) : p.started = true := by
  cases hp : p.started with
  | true => rfl
  | false => exact absurd (congrArg Worker.phase (h.fresh hp)) hw

/-- A worker that runs a job has an empty slot. -/
theorem Fit.pending_eq_none {pending : Option Job} {j : Job} {n : Nat}
    (h : p.Fit handed k ⟨pending, .running j, n⟩) : pending = none := by
  cases pending with
  | none => rfl
  | some _ => cases h.slot (by simp)

/-- After a change of one worker all are as they should be if that one is. -/
theorem Sound.fit_onWorker (h : p.Sound handed accepted) {f : Worker → Worker} {v : Worker}
    (hv : p.workers[i]? = some v) (hq : q.workers = (p.onWorker i f).workers)
    (hstarted : q.started = p.started) (hshut : q.shutDown = p.shutDown)
    (hcount : ∀ k ≠ i, q.idle.count k + handed'.count k = p.idle.count k + handed.count k)
    (hfit : q.Fit handed' i (f v)) : ∀ k w, q.workers[k]? = some w → q.Fit handed' k w := by
  intro k w hw
  rw [hq] at hw
  obtain ⟨hki, hw⟩ | ⟨rfl, v', hv', rfl⟩ := getElem?_onWorker_eq_some hw
  · exact (h.fit k w hw).congr hstarted hshut (hcount k hki)
  · cases hv.symm.trans hv'
    exact hfit

/-- After a move of a worker that is as it should be, the pool agrees with the books. -/
theorem Sound.of_move (h : p.Sound handed accepted) (hmove : Move i p q) {f : Worker → Worker}
    {v : Worker} (hv : p.workers[i]? = some v) (hstarted : p.started = true)
    (hworkers : q.workers = (p.onWorker i f).workers)
    (hidle : q.idle = p.idle ∨ q.idle = p.idle ++ [i]) (hfit : q.Fit handed i (f v)) :
    q.Sound handed accepted := by
  obtain ⟨hshut, hstart, -, hlength, -⟩ := hmove.frame
  have hcount : ∀ k ≠ i, q.idle.count k = p.idle.count k := fun k hki => by
    obtain hidle | hidle := hidle <;> simp [hidle, List.count_append, Ne.symm hki]
  refine
    { fit := h.fit_onWorker hv hworkers hstart hshut (fun k hki => by rw [hcount k hki]) hfit
      idle_lt := fun k hk => ?_
      handed_lt := fun k hk => hlength ▸ h.handed_lt k hk
      quiet := fun hq => nomatch hq.symm.trans (hstart.trans hstarted)
      ledger := fun x => (hmove.ledger x).trans (h.ledger x)
      begun := ?_ }
  · rw [hlength]
    by_cases hki : k = i
    · exact hki ▸ (List.getElem?_eq_some_iff.1 hv).1
    · refine h.idle_lt k (List.count_pos_iff.1 ?_)
      rw [← hcount k hki]
      exact List.count_pos_iff.2 hk
  · have hsum := hmove.begun
    rw [h.begun, Nat.add_comm] at hsum
    exact Nat.add_left_cancel hsum

/-- The workers agree with the books after each of their moves. -/
theorem Sound.move (hmove : Move i p q) (h : p.Sound handed accepted) :
    q.Sound handed accepted := by
  cases hmove with
  | @begin j n hv =>
    -- The job moves from the slot to the jobs that run, so the worker has as many as before.
    have hi := h.fit i _ hv
    have hstarted := hi.started (by simp)
    refine h.of_move (.begin hv) hv hstarted rfl (.inl rfl) ?_
    exact .of_started hstarted (by simp) (by simp) (by simp) (hi.once hstarted)
  | @finish pending j n hv hj hp =>
    -- The job that ends makes room for one place in the queue.
    have hi := h.fit i _ hv
    have hstarted := hi.started (by simp)
    obtain rfl := hi.pending_eq_none
    refine h.of_move (.finish hv hj hp) hv hstarted rfl (.inr rfl) ?_
    refine .of_started hstarted (by simp) (by simp) (by simp) fun _ => ?_
    have honce := hi.once hstarted hp
    simp [Worker.load] at honce
    simp [release, Worker.load, onWorker]
    omega
  | @finishLast pending j n hv hj hp =>
    have hi := h.fit i _ hv
    have hstarted := hi.started (by simp)
    obtain rfl := hi.pending_eq_none
    refine h.of_move (.finishLast hv hj hp) hv hstarted rfl (.inl rfl) (.of_ended ?_ ?_ (n + 1))
    · exact hstarted
    · exact hp
  | @stop n hv hp =>
    have hi := h.fit i _ hv
    have hstarted := hi.started (by simp)
    refine h.of_move (.stop hv hp) hv hstarted rfl (.inl rfl) (.of_ended ?_ ?_ n)
    · exact hstarted
    · exact hp

/-! ### What the operations do -/

/-- A pool that is asked for a worker stays as it is or gives the first idle one away. -/
theorem take_eq_ok {timeout : Option Binary64} {r : Option Nat} (h : p.take timeout = .ok (r, q)) :
    (r = none ∧ q = p) ∨
      ∃ i is, p.idle = i :: is ∧ r = some i ∧ q = { p with idle := is } := by
  unfold take at h
  split at h
  · cases h
    exact .inl ⟨rfl, rfl⟩
  · split at h
    · cases h
    · split at h
      · cases h
        exact .inl ⟨rfl, rfl⟩
      · rename_i i is hidle
        cases h
        exact .inr ⟨i, is, hidle, rfl, rfl⟩

/-- A job that is accepted is put into the empty slot of its worker. -/
theorem assign_eq_ok {j : Job} (h : p.assign i j = .ok q) :
    p.shutDown = false ∧ p.slot i = none ∧
      q = p.onWorker i fun w => { w with pending := some j } := by
  unfold assign at h
  split at h
  · cases h
  · split at h
    · cases h
    · rename_i hshut hslot
      cases h
      exact ⟨by simpa using hshut, by simpa [slot] using hslot, rfl⟩

theorem act_assign_eq_ok {j : Job} {r : Option Nat} (h : p.act (.assign i j) = .ok (r, q)) :
    p.assign i j = .ok q := by
  cases hassign : p.assign i j with
  | error f => simp [act, hassign, bind, Except.bind] at h
  | ok q' =>
    simp [act, hassign, bind, Except.bind, pure, Except.pure] at h
    exact congrArg _ h.2

/-! ### The operations keep the books right -/

/-- A pool agrees with the books on it before all operations. -/
theorem sound_ofSize (size : Nat) : (ofSize size).Sound [] [] where
  fit k w hw := by
    obtain rfl := List.eq_of_mem_replicate (List.mem_of_getElem? hw)
    exact { fresh := fun _ => rfl, awake := nofun, going := nofun, slot := nofun, once := nofun }
  idle_lt := nofun
  handed_lt := nofun
  quiet _ := ⟨rfl, rfl⟩
  ledger x := by
    simp only [ofSize, held, slot, List.getElem?_replicate, Worker.fresh]
    split <;> simp
  begun := (Worker.allBegun_eq_zero fun w hw => List.eq_of_mem_replicate hw ▸ rfl).symm

/-- The workers of a pool that starts are idle, each once. -/
theorem Sound.start (h : p.Sound handed accepted) : p.start.Sound handed accepted := by
  unfold Pool.start
  split
  · exact h
  · rename_i hp
    have hp : p.started = false := by simpa using hp
    obtain ⟨hidle, rfl⟩ := h.quiet hp
    -- No worker has a job before the start, so all of them wait for one afterwards.
    have hfresh : ∀ w ∈ p.workers, w = .fresh := fun w hw => by
      obtain ⟨k, hk⟩ := List.mem_iff_getElem?.1 hw
      exact (h.fit k w hk).fresh hp
    refine
      { fit := fun k w hw => ?_
        idle_lt := fun k hk => by simpa [hidle] using hk
        handed_lt := nofun
        quiet := nofun
        ledger := fun x => ?_
        begun := ?_ }
    · rw [List.getElem?_map, Option.map_eq_some_iff] at hw
      obtain ⟨v, hv, rfl⟩ := hw
      obtain rfl := hfresh v (List.mem_of_getElem? hv)
      have hk := (List.getElem?_eq_some_iff.1 hv).1
      refine .of_started rfl (by simp) (by simp) (by simp [Worker.fresh]) fun _ => ?_
      simp [hidle, Worker.load, Worker.fresh, List.count_range, hk]
    · have hslot : ((p.workers.map fun w => { w with phase := .waiting })[x.1]?).bind
          Worker.pending = p.slot x.1 := by
        rw [List.getElem?_map, slot]
        cases p.workers[x.1]? <;> rfl
      rw [← h.ledger x, held, held, ← hslot]
      rfl
    · rw [h.begun, Worker.allBegun_eq_zero fun w hw => hfresh w hw ▸ rfl]
      refine (Worker.allBegun_eq_zero (List.forall_mem_map.2 fun w hw => ?_)).symm
      rw [hfresh w hw]
      rfl

/-- A worker that is taken is no longer idle but handed out. -/
theorem Sound.take {timeout : Option Binary64} {r : Option Nat}
    (h : p.Sound handed accepted) (hq : p.take timeout = .ok (r, q)) :
    q.Sound (handedAfter handed (.take timeout) r) accepted := by
  obtain ⟨rfl, rfl⟩ | ⟨i, is, hidle, rfl, rfl⟩ := take_eq_ok hq
  · exact h
  · have hi := h.idle_lt i (hidle ▸ List.mem_cons_self)
    refine { h with
      fit := fun k w hw => (h.fit k w hw).congr rfl rfl ?_
      idle_lt := fun k hk => h.idle_lt k (hidle ▸ List.mem_cons_of_mem i hk)
      handed_lt := List.forall_mem_cons.2 ⟨hi, h.handed_lt⟩
      quiet := fun hp => ?_ }
    · simp [handedAfter, hidle, List.count_cons]
      omega
    · cases hidle.symm.trans (h.quiet hp).1

/-- A worker that is handed out waits, with an empty slot. -/
theorem Sound.handed_waits (h : p.Sound handed accepted) (hp : p.shutDown = false)
    (hi : i ∈ handed) : ∃ n, p.workers[i]? = some ⟨none, .waiting, n⟩ := by
  have hstarted : p.started = true := by
    cases hp : p.started with
    | true => rfl
    | false => exact nomatch (h.quiet hp).2 ▸ hi
  obtain ⟨⟨pending, phase, n⟩, hv⟩ : ∃ v, p.workers[i]? = some v :=
    ⟨_, List.getElem?_eq_getElem (h.handed_lt i hi)⟩
  have hfit := h.fit i _ hv
  have honce := hfit.once hstarted hp
  have hcount : 0 < handed.count i := List.count_pos_iff.2 hi
  refine ⟨n, ?_⟩
  rw [hv]
  cases phase with
  | notStarted => exact absurd rfl (hfit.awake hstarted)
  | ended => exact absurd rfl (hfit.going hp)
  | running j =>
    simp [Worker.load] at honce
    omega
  | waiting =>
    cases pending with
    | none => rfl
    | some j =>
      simp [Worker.load] at honce
      omega

/-- A worker that is handed out and given a job has that job alone. -/
theorem Sound.assign {j : Job} (h : p.Sound handed accepted) (hi : i ∈ handed)
    (hq : p.assign i j = .ok q) : q.Sound (handed.erase i) (accepted ++ [(i, j)]) := by
  obtain ⟨hshut, -, rfl⟩ := assign_eq_ok hq
  obtain ⟨n, hv⟩ := h.handed_waits hshut hi
  have hfit := h.fit i _ hv
  have hstarted := hfit.started (by simp)
  have hcount : ∀ k ≠ i, p.idle.count k + (handed.erase i).count k =
      p.idle.count k + handed.count k := fun k hki => by
    rw [List.count_erase_of_ne hki]
  refine
    { fit := h.fit_onWorker hv rfl rfl rfl hcount ?_
      idle_lt := fun k hk => by simpa using h.idle_lt k hk
      handed_lt := fun k hk => by simpa using h.handed_lt k (List.mem_of_mem_erase hk)
      quiet := fun hq => nomatch hq.symm.trans hstarted
      ledger := fun x => ?_
      begun := ?_ }
  · refine .of_started hstarted (by simp) (by simp) (by simp) fun _ => ?_
    have honce := hfit.once hstarted hshut
    have hpos : 0 < handed.count i := List.count_pos_iff.2 hi
    simp [Worker.load] at honce
    simp [Worker.load, onWorker, List.count_erase_self]
    omega
  · have hheld := @held_onWorker p i (fun w => { w with pending := some j }) _ hv x
    rw [List.count_append, ← h.ledger x, Nat.add_assoc]
    simp at hheld
    exact congrArg _ hheld
  · have hsum := Worker.allBegun_modify (fun w => { w with pending := some j }) hv
    simp [Worker.begun] at hsum
    exact h.begun.trans hsum.symm

/-- The books stay right under an allowed operation that gives an answer. -/
theorem Sound.act {s : Supervised} {o : Operation} {r : Option Nat}
    (h : s.pool.Sound s.handed s.accepted) (ho : s.allows o = true)
    (hq : s.pool.act o = .ok (r, q)) :
    q.Sound (handedAfter s.handed o r) (acceptedAfter s.accepted o) := by
  cases o with
  | start =>
    cases hq
    exact h.start
  | take timeout => exact h.take hq
  | assign i j =>
    exact h.assign (by simpa [Supervised.allows] using ho) (act_assign_eq_ok hq)
  | wake i =>
    cases hq
    exact h
  | release i => cases ho
  | finish name =>
    cases hq
    exact { h with fit := fun k w hw => (h.fit k w hw).congr rfl rfl rfl }
  | shutDown =>
    cases hq
    exact { h with
      fit := fun k w hw => { h.fit k w hw with going := nofun, once := nofun } }
  | join =>
    cases hq
    exact h

end Pool
end TrafficReplay
