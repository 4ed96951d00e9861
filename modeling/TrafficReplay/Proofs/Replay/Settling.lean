import TrafficReplay.Replay.Pool

/-!
# Workers that come to rest

What the workers of a pool do on their own is a row of moves, each of one worker: it begins the job
in its slot, it ends a job, or it ends itself.  What every move preserves holds of the pool that has
come to rest.

* `Pool.Move`, `Pool.Moves`: a move of a worker, and rows of moves;
* `Pool.moves_settle`: a pool comes to rest by moves;
* `Pool.Rested`, `Pool.rested_settle`: then no worker can move.
-/

namespace TrafficReplay
namespace Pool

variable {p q : Pool} {i k : Nat}

/-- The log after a job has ended on a worker. -/
def endLog (p : Pool) (i : Nat) (j : Job) : List LogRecord :=
  if j.fails then p.log ++ [failureNote i j.name] else p.log

/-- A move of a worker. -/
inductive Move (i : Nat) : Pool → Pool → Prop
  /-- It begins the job in its slot. -/
  | begin {p : Pool} {j : Job} {n : Nat} (h : p.workers[i]? = some ⟨some j, .waiting, n⟩) :
      Move i p { p.onWorker i fun _ => ⟨none, .running j, n⟩ with ran := p.ran ++ [(i, j)] }
  /-- It ends its job and is idle. -/
  | finish {p : Pool} {pending : Option Job} {j : Job} {n : Nat}
      (h : p.workers[i]? = some ⟨pending, .running j, n⟩) (hj : p.canEnd j = true)
      (hp : p.shutDown = false) :
      Move i p
        { (p.onWorker i fun _ => ⟨pending, .waiting, n + 1⟩).release i with log := p.endLog i j }
  /-- It ends its last job and itself. -/
  | finishLast {p : Pool} {pending : Option Job} {j : Job} {n : Nat}
      (h : p.workers[i]? = some ⟨pending, .running j, n⟩) (hj : p.canEnd j = true)
      (hp : p.shutDown = true) :
      Move i p { p.onWorker i fun _ => ⟨pending, .ended, n + 1⟩ with log := p.endLog i j }
  /-- It ends while it waits. -/
  | stop {p : Pool} {n : Nat} (h : p.workers[i]? = some ⟨none, .waiting, n⟩)
      (hp : p.shutDown = true) :
      Move i p (p.onWorker i fun _ => ⟨none, .ended, n⟩)

/-- Moves one after another. -/
inductive Moves : Pool → Pool → Prop
  | refl (p : Pool) : Moves p p
  | cons {p q r : Pool} {i : Nat} (h : Move i p q) (hrest : Moves q r) : Moves p r

theorem Moves.trans {r : Pool} (h : Moves p q) (h' : Moves q r) : Moves p r := by
  induction h with
  | refl => exact h'
  | cons hmove _ ih => exact .cons hmove (ih h')

/-- What every move preserves is preserved by moves. -/
theorem Moves.preserve {P : Pool → Prop} (hP : ∀ i p q, Move i p q → P p → P q) (h : Moves p q)
    (hp : P p) : P q := by
  induction h with
  | refl => exact hp
  | cons hmove _ ih => exact ih (hP _ _ _ hmove hp)

/-! ### The steps of settling are moves -/

theorem moves_startPending (p : Pool) (i : Nat) : Moves p (p.startPending i) := by
  unfold startPending
  split
  · exact .cons (.begin ‹_›) (.refl _)
  · exact .refl _

theorem moves_endRunning (p : Pool) (i : Nat) : Moves p (p.endRunning i) := by
  unfold endRunning
  split
  · rename_i h
    split
    · rename_i hj
      dsimp only
      split
      · rename_i hp
        exact .cons (.finishLast h hj hp) (.refl _)
      · rename_i hp
        exact .cons (.finish h hj (by simpa using hp)) (.refl _)
    · exact .refl _
  · exact .refl _

theorem moves_endWaiting (p : Pool) (i : Nat) : Moves p (p.endWaiting i) := by
  unfold endWaiting
  split
  · rename_i h
    split
    · rename_i hp
      exact .cons (.stop h hp) (.refl _)
    · exact .refl _
  · exact .refl _

theorem moves_settleWorker (p : Pool) (i : Nat) : Moves p (p.settleWorker i) :=
  (moves_endRunning p i).trans <| (moves_startPending _ i).trans <|
    (moves_endRunning _ i).trans (moves_endWaiting _ i)

/-- A pool comes to rest by moves. -/
theorem moves_settle (p : Pool) : Moves p p.settle := by
  unfold settle
  generalize List.range p.workers.length = is
  induction is generalizing p with
  | nil => exact .refl _
  | cons i is ih => exact (moves_settleWorker p i).trans (ih _)

/-! ### At rest -/

/-- Whether a worker cannot move. -/
def AtRest (p : Pool) (w : Worker) : Prop :=
  match w.phase with
  | .notStarted | .ended => True
  | .waiting => w.pending = none ∧ p.shutDown = false
  | .running j => p.canEnd j = false

/-- Whether no worker of a pool can move. -/
def Rested (p : Pool) : Prop := ∀ w ∈ p.workers, p.AtRest w

@[simp] theorem getElem?_onWorker_self (p : Pool) (i : Nat) (f : Worker → Worker) :
    (p.onWorker i f).workers[i]? = p.workers[i]?.map f := by
  simp [onWorker]

theorem getElem?_onWorker_of_ne (p : Pool) (f : Worker → Worker) (h : k ≠ i) :
    (p.onWorker i f).workers[k]? = p.workers[k]? := by
  simp [onWorker, Ne.symm h]

/-- A move of one worker leaves the others and the marks of the pool alone. -/
theorem Move.frame (h : Move i p q) :
    q.shutDown = p.shutDown ∧ q.started = p.started ∧ q.opened = p.opened ∧
      q.workers.length = p.workers.length ∧ ∀ k ≠ i, q.workers[k]? = p.workers[k]? := by
  cases h <;>
    exact ⟨rfl, rfl, rfl, List.length_modify .., fun k hk => getElem?_onWorker_of_ne p _ hk⟩

theorem Moves.marks (h : Moves p q) :
    q.shutDown = p.shutDown ∧ q.started = p.started ∧ q.opened = p.opened ∧
      q.workers.length = p.workers.length := by
  induction h with
  | refl => exact ⟨rfl, rfl, rfl, rfl⟩
  | cons hmove _ ih =>
    obtain ⟨hshut, hstarted, hopened, hlength, -⟩ := hmove.frame
    obtain ⟨hshut', hstarted', hopened', hlength'⟩ := ih
    exact ⟨hshut'.trans hshut, hstarted'.trans hstarted, hopened'.trans hopened,
      hlength'.trans hlength⟩

theorem canEnd_congr (h : q.opened = p.opened) (j : Job) : q.canEnd j = p.canEnd j := by
  rw [canEnd, canEnd, h]

theorem atRest_congr (hshut : q.shutDown = p.shutDown) (hopened : q.opened = p.opened) (w : Worker) :
    q.AtRest w ↔ p.AtRest w := by
  unfold AtRest
  cases w.phase <;> simp [hshut, canEnd_congr hopened]

/-- What a worker runs after `endRunning` cannot end. -/
theorem canEnd_endRunning {pending : Option Job} {j : Job} {n : Nat}
    (h : (p.endRunning i).workers[i]? = some ⟨pending, .running j, n⟩) : p.canEnd j = false := by
  unfold endRunning at h
  split at h
  · rename_i hw
    split at h
    · dsimp only at h
      split at h <;> simp [release, hw] at h
    · rename_i hj
      cases hw.symm.trans h
      simpa using hj
  · rename_i hno
    exact absurd h (hno pending j n)

/-- A worker that waits after `endRunning` has an empty slot if it had one before it waited. -/
theorem pending_endRunning {pending : Option Job} {n : Nat}
    (hwaiting : ∀ pending n, p.workers[i]? = some ⟨pending, .waiting, n⟩ → pending = none)
    (hrunning : ∀ pending j n, p.workers[i]? = some ⟨pending, .running j, n⟩ →
      p.canEnd j = true → pending = none)
    (h : (p.endRunning i).workers[i]? = some ⟨pending, .waiting, n⟩) : pending = none := by
  unfold endRunning at h
  split at h
  · rename_i hw
    split at h
    · rename_i hj
      have hnone := hrunning _ _ _ hw hj
      dsimp only at h
      split at h
      · simp [hw] at h
      · simp [release, hw, hnone] at h
        exact h.1.symm
    · exact hwaiting _ _ h
  · exact hwaiting _ _ h

/-- A worker that waits after `startPending` has an empty slot. -/
theorem pending_startPending {pending : Option Job} {n : Nat}
    (h : (p.startPending i).workers[i]? = some ⟨pending, .waiting, n⟩) : pending = none := by
  unfold startPending at h
  split at h
  · rename_i hw
    simp [hw] at h
  · rename_i hno
    cases pending with
    | none => rfl
    | some j => exact absurd h (hno j n)

/-- A worker that runs a job after `startPending` has begun it, with an empty slot, or ran it
before. -/
theorem running_startPending {pending : Option Job} {j : Job} {n : Nat}
    (h : (p.startPending i).workers[i]? = some ⟨pending, .running j, n⟩) :
    pending = none ∨ p.workers[i]? = some ⟨pending, .running j, n⟩ := by
  unfold startPending at h
  split at h
  · rename_i hw
    simp [hw] at h
    exact .inl h.1.symm
  · exact .inr h

theorem atRest_endWaiting
    (hwaiting : ∀ pending n, p.workers[i]? = some ⟨pending, .waiting, n⟩ → pending = none)
    (hrunning : ∀ pending j n, p.workers[i]? = some ⟨pending, .running j, n⟩ →
      p.canEnd j = false)
    {w : Worker} (h : (p.endWaiting i).workers[i]? = some w) : (p.endWaiting i).AtRest w := by
  have hmarks := (moves_endWaiting p i).marks
  rw [atRest_congr hmarks.1 hmarks.2.2.1]
  unfold endWaiting at h
  split at h
  · rename_i hw
    split at h
    · simp [hw] at h
      rw [← h]
      trivial
    · rename_i hp
      cases hw.symm.trans h
      exact ⟨rfl, by simpa using hp⟩
  · rename_i hno
    obtain ⟨pending, phase, n⟩ := w
    cases phase with
    | notStarted => trivial
    | ended => trivial
    | waiting =>
      obtain rfl := hwaiting _ _ h
      exact absurd h (hno n)
    | running j => exact hrunning _ _ _ h

/-- A worker that has settled cannot move. -/
theorem atRest_settleWorker (p : Pool) (i : Nat) {w : Worker}
    (h : (p.settleWorker i).workers[i]? = some w) : (p.settleWorker i).AtRest w := by
  have hopened : ((p.endRunning i).startPending i).opened = p.opened :=
    ((moves_endRunning p i).trans (moves_startPending _ i)).marks.2.2.1
  -- What runs after the second `endRunning` cannot end; what waits has had its slot emptied, unless
  -- it was running all the time, and then it could not end before either.
  refine atRest_endWaiting (fun pending n hw => ?_) (fun pending j n hw => ?_) h
  · refine pending_endRunning (fun _ _ => pending_startPending) (fun pending j n hw hj => ?_) hw
    refine (running_startPending hw).elim id fun hran => ?_
    rw [canEnd_congr hopened, canEnd_endRunning hran] at hj
    cases hj
  · have hsame := (moves_endRunning ((p.endRunning i).startPending i) i).marks.2.2.1
    rw [canEnd_congr hsame, canEnd_endRunning hw]

theorem getElem?_startPending_of_ne (p : Pool) (h : k ≠ i) :
    (p.startPending i).workers[k]? = p.workers[k]? := by
  unfold startPending
  split
  · exact getElem?_onWorker_of_ne p _ h
  · rfl

theorem getElem?_endRunning_of_ne (p : Pool) (h : k ≠ i) :
    (p.endRunning i).workers[k]? = p.workers[k]? := by
  unfold endRunning
  split
  · split
    · dsimp only
      split <;> exact getElem?_onWorker_of_ne p _ h
    · rfl
  · rfl

theorem getElem?_endWaiting_of_ne (p : Pool) (h : k ≠ i) :
    (p.endWaiting i).workers[k]? = p.workers[k]? := by
  unfold endWaiting
  split
  · split
    · exact getElem?_onWorker_of_ne p _ h
    · rfl
  · rfl

theorem getElem?_settleWorker_of_ne (p : Pool) (h : k ≠ i) :
    (p.settleWorker i).workers[k]? = p.workers[k]? := by
  rw [settleWorker, getElem?_endWaiting_of_ne _ h, getElem?_endRunning_of_ne _ h,
    getElem?_startPending_of_ne _ h, getElem?_endRunning_of_ne _ h]

/-- A worker is at rest once it has had its turn, and stays so while others have theirs. -/
theorem atRest_foldl_settleWorker (is : List Nat) (p : Pool)
    (h : k ∈ is ∨ ∀ w, p.workers[k]? = some w → p.AtRest w) {w : Worker}
    (hw : (is.foldl settleWorker p).workers[k]? = some w) : (is.foldl settleWorker p).AtRest w := by
  induction is generalizing p with
  | nil => exact h.elim (fun hk => nomatch hk) fun h => h w hw
  | cons i is ih =>
    refine ih _ ?_ hw
    by_cases hki : k = i
    · subst hki
      exact .inr fun w => atRest_settleWorker p k
    · refine h.imp (fun hk => (List.mem_cons.1 hk).resolve_left hki) fun h w hw => ?_
      have hmarks := (moves_settleWorker p i).marks
      rw [getElem?_settleWorker_of_ne p hki] at hw
      exact (atRest_congr hmarks.1 hmarks.2.2.1 w).2 (h w hw)

/-- In a pool that has settled no worker can move. -/
theorem rested_settle (p : Pool) : p.settle.Rested := by
  intro w hw
  obtain ⟨k, hk⟩ := List.mem_iff_getElem?.1 hw
  refine atRest_foldl_settleWorker _ p (.inl ?_) hk
  have hlt : k < p.settle.workers.length := (List.getElem?_eq_some_iff.1 hk).1
  rw [(moves_settle p).marks.2.2.2] at hlt
  exact List.mem_range.2 hlt

/-- A pool in which no worker can move does not move. -/
theorem Moves.eq_of_rested (h : Moves p q) (hp : p.Rested) : q = p := by
  cases h with
  | refl => rfl
  | cons hmove _ =>
    cases hmove with
    | begin h => cases (hp _ (List.mem_of_getElem? h)).1
    | finish h hj => cases hj.symm.trans (hp _ (List.mem_of_getElem? h))
    | finishLast h hj => cases hj.symm.trans (hp _ (List.mem_of_getElem? h))
    | stop h hs => cases hs.symm.trans (hp _ (List.mem_of_getElem? h)).2

end Pool
end TrafficReplay
