import TrafficReplay.Proofs.Loading.Alongside

/-!
# Files loaded at the same time

A pool of threads loads files into one run.  A free thread takes the next file; which of the loads
under way goes on next, nobody chooses.

* `LoadPool`, `LoadPool.turn`: what the threads have done so far, and what may happen next;
* `LoadPool.Sound`: what every turn keeps;
* `LoadPool.left_turn`, `LoadPool.exists_turn`: the turns come to an end, and not before all files
  have been loaded.
-/

namespace TrafficReplay

/-- The loads of some files. -/
structure LoadPool where
  run : RunState
  /-- The files that are still to be loaded. -/
  waiting : List FilePath
  /-- The loads under way. -/
  working : List Task
  /-- The files for which the loader was called, in order. -/
  called : List FilePath
  /-- The files whose loads have ended, in order, with the results. -/
  ended : List (FilePath × Except Fault Report)
  /-- The sessions that were closed with transactions in them, in order, with their files. -/
  closed : List (FilePath × Session)

namespace LoadPool

/-- What happens next. -/
inductive Turn
  /-- A free thread calls the loader for the next file. -/
  | call
  /-- One of the loads under way does its next part, or gives back its result. -/
  | go (i : Nat)
  deriving DecidableEq, Repr

/-- A pool before its first turn. -/
def start (run : RunState) (ps : List FilePath) : LoadPool := ⟨run, ps, [], [], [], []⟩

/-- What may happen next with a number of threads; `none` if it cannot. -/
def turn (h : Handler) (files : FileTree) (threads : Nat) (b : LoadPool) : Turn → Option LoadPool
  | .call =>
    match b.waiting with
    | [] => none
    | p :: ps =>
      if b.working.length < threads then
        some { b with
          waiting := ps
          working := b.working ++ [.start files p]
          called := b.called ++ [p] }
      else none
  | .go i =>
    match b.working[i]? with
    | none => none
    | some w =>
      match w.stage with
      | .ended r =>
        some { b with working := b.working.eraseIdx i, ended := b.ended ++ [(w.file, r)] }
      | _ =>
        let (w', run) := w.go h b.run
        some { b with
          run
          working := b.working.set i w'
          closed := b.closed ++ w.closing.map (w.file, ·) }

/-- Several turns, one after another. -/
def turns (h : Handler) (files : FileTree) (threads : Nat) (ts : List Turn) (b : LoadPool) :
    Option LoadPool :=
  ts.foldlM (turn h files threads) b

/-- Whether all files have been loaded. -/
def finished (b : LoadPool) : Bool := b.waiting.isEmpty && b.working.isEmpty

/-- The sessions that the load of a file has closed. -/
def closedBy (p : FilePath) (closed : List (FilePath × Session)) : List Session :=
  (closed.filter fun e => e.1 = p).map Prod.snd

variable {h : Handler} {settings : Settings} {files : FileTree} {threads : Nat} {run : RunState}
  {ps : List FilePath} {b b' : LoadPool} {t : Turn} {ts : List Turn}

/-! ### What a turn does -/

theorem exists_of_getElem? {α : Type} {l : List α} {i : Nat} {a : α} (hi : l[i]? = some a) :
    ∃ front back, l = front ++ a :: back ∧ l.eraseIdx i = front ++ back ∧
      ∀ a', l.set i a' = front ++ a' :: back := by
  obtain ⟨hlt, rfl⟩ := List.getElem?_eq_some_iff.mp hi
  refine ⟨l.take i, l.drop (i + 1), ?_, List.eraseIdx_eq_take_drop_succ _ _, fun a' => ?_⟩
  · rw [List.getElem_cons_drop, List.take_append_drop]
  · rw [List.set_eq_take_append_cons_drop, if_pos hlt]

/-- A turn calls the loader for the next file, takes the result of a load, or does the next part of
one. -/
theorem turn_cases (ht : b.turn h files threads t = some b') :
    (∃ p rest, b.waiting = p :: rest ∧ b.working.length < threads ∧
      b' = { b with
        waiting := rest
        working := b.working ++ [.start files p]
        called := b.called ++ [p] }) ∨
    (∃ front w back r, b.working = front ++ w :: back ∧ w.stage = .ended r ∧
      b' = { b with working := front ++ back, ended := b.ended ++ [(w.file, r)] }) ∨
    ∃ front w back, b.working = front ++ w :: back ∧ 0 < w.stage.parts ∧
      b' = { b with
        run := (w.go h b.run).2
        working := front ++ (w.go h b.run).1 :: back
        closed := b.closed ++ w.closing.map (w.file, ·) } := by
  cases t with
  | call =>
    left
    rw [turn] at ht
    split at ht
    · cases ht
    · rename_i p rest hwaiting
      split at ht
      · rename_i hfree
        cases ht
        exact ⟨p, rest, hwaiting, hfree, rfl⟩
      · cases ht
  | go i =>
    right
    rw [turn] at ht
    split at ht
    · cases ht
    · rename_i w hw
      obtain ⟨front, back, hworking, herase, hset⟩ := exists_of_getElem? hw
      cases hstage : w.stage with
      | ended r =>
        rw [hstage] at ht
        cases ht
        exact .inl ⟨front, w, back, r, hworking, hstage, by rw [herase]⟩
      | _ =>
        rw [hstage] at ht
        cases ht
        refine .inr ⟨front, w, back, hworking, ?_, by rw [hset]; rfl⟩
        rw [hstage]
        exact Nat.succ_pos _

/-! ### What every turn keeps -/

variable {p q : FilePath} {closed closed' : List (FilePath × Session)} {ssns : List Session}

theorem closedBy_append :
    closedBy p (closed ++ closed') = closedBy p closed ++ closedBy p closed' := by
  rw [closedBy, List.filter_append, List.map_append]
  rfl

theorem closedBy_map_self : closedBy p (ssns.map (p, ·)) = ssns := by
  have hall : ∀ e ∈ ssns.map (p, ·), decide (e.1 = p) = true := by
    simp
  rw [closedBy, List.filter_eq_self.mpr hall, List.map_map]
  exact List.map_id ssns

theorem closedBy_eq_nil (h : ∀ e ∈ closed, e.1 ≠ p) : closedBy p closed = [] := by
  rw [closedBy, List.filter_eq_nil_iff.mpr fun e he => by simpa using h e he]
  rfl

theorem closedBy_append_of_ne (h : q ≠ p) :
    closedBy p (closed ++ ssns.map (q, ·)) = closedBy p closed := by
  have hnone : closedBy p (ssns.map (q, ·)) = [] := closedBy_eq_nil (by simpa using fun _ _ => h)
  rw [closedBy_append, hnone, List.append_nil]

/-- The loads of some files, begun on a run, as they are between two turns.  Each has come as far as
the load of its file alone would have come. -/
structure Sound (files : FileTree) (settings : Settings) (run : RunState) (ps : List FilePath)
    (b : LoadPool) : Prop where
  inOrder : b.called ++ b.waiting = ps
  once : b.called.Perm (b.working.map Task.file ++ b.ended.map Prod.fst)
  gains : run.Gains b.run (b.closed.map Prod.snd)
  known : ∀ e ∈ b.closed, e.1 ∈ b.called
  partway : ∀ w ∈ b.working, w.Partway files settings (closedBy w.file b.closed)
  alone : ∀ e ∈ b.ended, e.2 = (RunState.empty.load files (settings, e.1)).1 ∧
    List.Forall₂ Session.Akin (closedBy e.1 b.closed) (RunState.own files (settings, e.1)).sessions

theorem sound_start (hrun : run.Loading) (ps : List FilePath) :
    (start run ps).Sound files settings run ps where
  inOrder := rfl
  once := .nil
  gains := hrun.gains
  known _ he := absurd he List.not_mem_nil
  partway _ hw := absurd hw List.not_mem_nil
  alone _ he := absurd he List.not_mem_nil

theorem Sound.nodup (hb : b.Sound files settings run ps) (hps : ps.Nodup) :
    (b.working.map Task.file ++ b.ended.map Prod.fst).Nodup := by
  rw [← hb.inOrder] at hps
  exact hb.once.nodup_iff.mp (List.nodup_append.mp hps).1

theorem Sound.call (hb : b.Sound files settings run ps) (hps : ps.Nodup) {rest : List FilePath}
    (hwaiting : b.waiting = p :: rest) :
    Sound files settings run ps { b with
      waiting := rest
      working := b.working ++ [.start files p]
      called := b.called ++ [p] } where
  inOrder := by rw [List.append_assoc, List.singleton_append, ← hwaiting, hb.inOrder]
  once := by
    simp only [List.map_append, List.map_cons, List.map_nil, List.append_assoc]
    refine (List.perm_append_singleton p b.called).trans ?_
    exact (hb.once.cons p).trans List.perm_middle.symm
  gains := hb.gains
  known e he := List.mem_append_left _ (hb.known e he)
  partway w hw := by
    rcases List.mem_append.mp hw with hw | hw
    · exact hb.partway w hw
    · obtain rfl := List.mem_singleton.mp hw
      -- The file has not been called before, so it has not closed anything yet.
      have hnew : p ∉ b.called := by
        have hnodup := hps
        rw [← hb.inOrder, hwaiting] at hnodup
        exact fun hp => (List.nodup_append.mp hnodup).2.2 p hp p List.mem_cons_self rfl
      have hnone : closedBy p b.closed = [] :=
        closedBy_eq_nil fun e he heq => hnew (heq ▸ hb.known e he)
      have hstart := Task.partway_start files settings p
      rwa [← hnone] at hstart
  alone := hb.alone

theorem Sound.take (hb : b.Sound files settings run ps) {front back : List Task} {w : Task}
    {r : Except Fault Report} (hworking : b.working = front ++ w :: back)
    (hw : w.stage = .ended r) :
    Sound files settings run ps
      { b with working := front ++ back, ended := b.ended ++ [(w.file, r)] } where
  inOrder := hb.inOrder
  once := by
    have honce := hb.once
    rw [hworking] at honce
    simp only [List.map_append, List.map_cons, List.map_nil, List.append_assoc] at honce ⊢
    refine honce.trans (List.Perm.append_left _ ?_)
    rw [← List.append_assoc]
    exact (List.perm_append_singleton _ _).symm
  gains := hb.gains
  known := hb.known
  partway v hv := by
    refine hb.partway v ?_
    rw [hworking]
    exact List.mem_append.mpr ((List.mem_append.mp hv).imp_right (List.mem_cons_of_mem w))
  alone e he := by
    rcases List.mem_append.mp he with he | he
    · exact hb.alone e he
    · obtain rfl := List.mem_singleton.mp he
      have hmem : w ∈ b.working := by
        rw [hworking]
        exact List.mem_append_right _ List.mem_cons_self
      exact (hb.partway w hmem).ended hw

theorem Sound.go (hb : b.Sound files settings run ps) (hps : ps.Nodup) {front back : List Task}
    {w : Task} (hworking : b.working = front ++ w :: back) :
    Sound files settings run ps { b with
      run := (w.go (.recording settings) b.run).2
      working := front ++ (w.go (.recording settings) b.run).1 :: back
      closed := b.closed ++ w.closing.map (w.file, ·) } := by
  have hmem : w ∈ b.working := by
    rw [hworking]
    exact List.mem_append_right _ List.mem_cons_self
  have hpart := hb.partway w hmem
  have hgains := hpart.gains hb.gains.loading
  -- No other load is that of the same file.
  have hother : ∀ q ∈ (front ++ back).map Task.file ++ b.ended.map Prod.fst, w.file ≠ q := by
    have hnodup := hb.nodup hps
    simp only [hworking, List.map_append, List.map_cons, List.append_assoc, List.cons_append]
      at hnodup
    rw [List.perm_middle.nodup_iff, List.nodup_cons] at hnodup
    rintro q hq rfl
    exact hnodup.1 (by rwa [List.map_append, List.append_assoc] at hq)
  exact
    { inOrder := hb.inOrder
      once := by
        have honce := hb.once
        rw [hworking] at honce
        simpa only [List.map_append, List.map_cons, Task.file_go] using honce
      gains := by
        have hsnd : (w.closing.map (w.file, ·)).map Prod.snd = w.closing := by
          rw [List.map_map]
          exact List.map_id _
        rw [List.map_append, hsnd]
        exact hb.gains.trans hgains
      known := by
        intro e he
        rcases List.mem_append.mp he with he | he
        · exact hb.known e he
        · obtain ⟨_, -, rfl⟩ := List.mem_map.mp he
          exact hb.once.mem_iff.mpr (List.mem_append_left _ (List.mem_map_of_mem hmem))
      partway := by
        intro v hv
        rcases List.mem_append.mp hv with hv | hv
        · rw [closedBy_append_of_ne (hother _ (by simp [List.mem_map_of_mem hv]))]
          exact hb.partway v (by simp [hworking, hv])
        rcases List.mem_cons.mp hv with rfl | hv
        · rw [Task.file_go, closedBy_append, closedBy_map_self]
          exact hpart.go hb.gains.loading
        · rw [closedBy_append_of_ne (hother _ (by simp [List.mem_map_of_mem hv]))]
          exact hb.partway v (by simp [hworking, hv])
      alone := by
        intro e he
        rw [closedBy_append_of_ne (hother _ (List.mem_append_right _ (List.mem_map_of_mem he)))]
        exact hb.alone e he }

/-- Every turn keeps what holds of the loads. -/
theorem Sound.turn (hb : b.Sound files settings run ps) (hps : ps.Nodup)
    (ht : b.turn (.recording settings) files threads t = some b') :
    b'.Sound files settings run ps := by
  obtain ⟨p, rest, hwaiting, -, rfl⟩ | ⟨front, w, back, r, hworking, hw, rfl⟩ |
    ⟨front, w, back, hworking, -, rfl⟩ := turn_cases ht
  · exact hb.call hps hwaiting
  · exact hb.take hworking hw
  · exact hb.go hps hworking

theorem Sound.turns (hb : b.Sound files settings run ps) (hps : ps.Nodup)
    (hts : b.turns (.recording settings) files threads ts = some b') :
    b'.Sound files settings run ps := by
  induction ts generalizing b with
  | nil =>
    cases hts
    exact hb
  | cons t ts ih =>
    obtain ⟨b₁, ht, hrest⟩ := Option.bind_eq_some_iff.mp hts
    exact ih (hb.turn hps ht) hrest

/-! ### The turns come to an end -/

/-- The number of turns that are left at most. -/
def left (files : FileTree) (b : LoadPool) : Nat :=
  (b.waiting.map fun p => (Stage.ofFile files p).parts + 2).sum +
    (b.working.map fun w => w.stage.parts + 1).sum

theorem left_turn (ht : b.turn h files threads t = some b') : b'.left files < b.left files := by
  obtain ⟨p, rest, hwaiting, -, rfl⟩ | ⟨front, w, back, r, hworking, hw, rfl⟩ |
    ⟨front, w, back, hworking, hw, rfl⟩ := turn_cases ht
  · simp only [left, hwaiting, List.map_append, List.map_cons, List.map_nil, List.sum_append,
      List.sum_cons, List.sum_nil, Task.start]
    omega
  · simp only [left, hworking, List.map_append, List.map_cons, List.sum_append, List.sum_cons]
    omega
  · have hparts := Task.parts_go h hw b.run
    simp only [left, hworking, List.map_append, List.map_cons, List.sum_append, List.sum_cons]
    omega

/-- There are no more turns than parts. -/
theorem length_turns (hts : b.turns h files threads ts = some b') :
    ts.length + b'.left files ≤ b.left files := by
  induction ts generalizing b with
  | nil =>
    cases hts
    exact Nat.le_of_eq (Nat.zero_add _)
  | cons t ts ih =>
    obtain ⟨b₁, ht, hrest⟩ := Option.bind_eq_some_iff.mp hts
    have hlt := left_turn ht
    have hle := ih hrest
    rw [List.length_cons]
    omega

theorem turn_call {rest : List FilePath} (hwaiting : b.waiting = p :: rest)
    (hfree : b.working.length < threads) :
    b.turn h files threads .call = some { b with
      waiting := rest
      working := b.working ++ [.start files p]
      called := b.called ++ [p] } := by
  rw [turn, hwaiting]
  exact if_pos hfree

theorem turn_go_of_ended {w : Task} {rest : List Task} {r : Except Fault Report}
    (hworking : b.working = w :: rest) (hw : w.stage = .ended r) :
    b.turn h files threads (.go 0) =
      some { b with working := rest, ended := b.ended ++ [(w.file, r)] } := by
  simp only [turn, hworking, List.getElem?_cons_zero, hw, List.eraseIdx_cons_zero]

theorem turn_go {w : Task} {rest : List Task} (hworking : b.working = w :: rest)
    (hw : 0 < w.stage.parts) :
    b.turn h files threads (.go 0) = some { b with
      run := (w.go h b.run).2
      working := (w.go h b.run).1 :: rest
      closed := b.closed ++ w.closing.map (w.file, ·) } := by
  simp only [turn, hworking, List.getElem?_cons_zero, List.set_cons_zero]
  cases hstage : w.stage with
  | ended r =>
    rw [hstage] at hw
    exact absurd hw (Nat.lt_irrefl 0)
  | _ => rfl

/-- As long as not all files have been loaded, something can happen. -/
theorem exists_turn (hthreads : 0 < threads) (hfinished : b.finished = false) :
    ∃ t b', b.turn h files threads t = some b' := by
  cases hworking : b.working with
  | nil =>
    cases hwaiting : b.waiting with
    | nil =>
      rw [finished, hwaiting, hworking] at hfinished
      cases hfinished
    | cons p rest => exact ⟨.call, _, turn_call hwaiting (by rwa [hworking])⟩
  | cons w rest =>
    rcases Nat.eq_zero_or_pos w.stage.parts with hzero | hpos
    · obtain ⟨r, hr⟩ := Stage.eq_ended_of_parts_eq_zero hzero
      exact ⟨.go 0, _, turn_go_of_ended hworking hr⟩
    · exact ⟨.go 0, _, turn_go hworking hpos⟩

end LoadPool

end TrafficReplay
