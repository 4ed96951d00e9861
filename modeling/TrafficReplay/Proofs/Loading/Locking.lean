import TrafficReplay.Proofs.Loading.Frames

/-!
# Who holds the load lock

Scopes are entered and left between the other callbacks, in any order, and callbacks may end in
faults.  As long as no one waits for the load lock while it is held, at most one of the scopes that
are not left could open its transaction, and the lock is held exactly if there is one.

* `Told`, `Told.after`: what has come of some callbacks, and which scopes are not left;
* `Told.Held`, `Told.held_next`: what one callback keeps;
* `Told.disciplined_after`: what that says of every row of callbacks.
-/

namespace TrafficReplay
open TrafficReplay.Yaml

/-- The scopes that are not left, the innermost first, after the answer to a callback: whether the
transaction of each could be opened. -/
def Handler.Callback.stack (opened : List Bool) : Callback → Except Fault Report → List Bool
  | .openScope _, .ok report => report.ok :: opened
  | .leaveScope, _ => opened.tail
  | _, _ => opened

/-- What has come of the callbacks so far: what the handler works on, and the scopes that are not
left. -/
structure Told where
  state : LoadState
  opened : List Bool

namespace Told

/-- What there is before the first callback. -/
def start (run : RunState) (path : String) : Told := ⟨.start run path, []⟩

/-- What has come of one callback more, which may end in a fault. -/
def next (h : Handler) (w : Told) (c : Handler.Callback) : Told :=
  ⟨((h.call c).runOn w.state).2, c.stack w.opened ((h.call c).runOn w.state).1⟩

/-- What has come of some callbacks more. -/
def after (h : Handler) (w : Told) (cs : List Handler.Callback) : Told := cs.foldl (next h) w

/-- That none of some callbacks finds the load lock held when it takes it. -/
def Unblocked (h : Handler) : Told → List Handler.Callback → Prop
  | _, [] => True
  | w, c :: cs => ((h.call c).runOn w.state).1 ≠ .error .lockHeld ∧ Unblocked h (next h w c) cs

variable {settings : Settings} {w : Told}

/-! ### One callback -/

/-- The load lock is held by the one scope that could open its transaction, if there is one. -/
structure Held (w : Told) : Prop where
  scopes : w.state.scopes = w.opened
  once : w.opened.count true ≤ 1
  locked : w.state.run.locked = true ↔ w.opened.count true = 1
  sessions : ∀ ssn ∈ w.state.run.sessions, ssn.transactions ≠ []

/-- The contract of all that neither enters nor leaves a scope. -/
def level : Contract LoadState Fault where
  change s t := t.hold = s.hold ∧
    ∀ ssn ∈ t.run.sessions, ssn ∈ s.run.sessions ∨ ssn.transactions ≠ []
  fault _ _ := True
  refl _ := ⟨rfl, fun _ => .inl⟩
  trans := by
    rintro s t u ⟨hhold, hssns⟩ ⟨hhold', hssns'⟩
    exact ⟨hhold'.trans hhold, fun ssn hssn => (hssns' ssn hssn).elim (hssns ssn) .inr⟩
  fault_of_change _ := id

theorem meets_level_of_within {α : Type} {x : Load α} (hx : x.Meets Load.within) :
    x.Meets level := by
  refine hx.mono (fun s t h => ?_) fun _ _ _ => trivial
  simp only [Load.within, Contract.leaving, Prod.mk.injEq] at h
  exact ⟨h.1, fun ssn hssn => .inl (h.2 ▸ hssn)⟩

theorem meets_level_of_around {α : Type} {x : Load α} (hx : x.Meets Load.around) :
    x.Meets level :=
  hx.mono (fun _ _ h => ⟨h.1, h.2.2⟩) fun _ _ _ => trivial

/-- What keeps to the level of the scopes keeps the load lock where it is. -/
theorem Held.of_meets (hw : w.Held) {x : Load Report} (hx : x.Meets level) :
    Held ⟨(x.runOn w.state).2, w.opened⟩ := by
  obtain ⟨⟨hhold, hssns⟩, -⟩ := hx w.state
  simp only [LoadState.hold, Prod.mk.injEq] at hhold
  exact
    { scopes := hhold.1.trans hw.scopes
      once := hw.once
      locked := hhold.2 ▸ hw.locked
      sessions := fun ssn hssn => (hssns ssn hssn).elim (hw.sessions ssn) id }

theorem Held.openScope (hw : w.Held) {n : Node}
    (h : (((Handler.recording settings).openScope n).runOn w.state).1 ≠ .error .lockHeld) :
    (w.next (.recording settings) (.openScope n)).Held := by
  have hentering := Handler.entering_openScope settings w.state n
  unfold next
  simp only [Handler.call]
  rcases hrun : ((Handler.recording settings).openScope n).runOn w.state with ⟨r, t⟩
  rw [hrun] at hentering h
  cases hentering with
  | nested ht => exact hw
  | blocked hl => exact absurd rfl h
  | failed report hok =>
    have hcount : (false :: w.opened).count true = w.opened.count true := by simp
    simp only [Handler.Callback.stack, hok]
    exact ⟨congrArg _ hw.scopes, hcount ▸ hw.once, hcount ▸ hw.locked, hw.sessions⟩
  | opened report hok ht hl =>
    -- No other scope holds the lock, which was free.
    have hnone : w.opened.count true = 0 := by
      have hne : w.opened.count true ≠ 1 := fun hone => by
        rw [hw.locked.2 hone] at hl
        cases hl
      have honce := hw.once
      omega
    have hcount : (true :: w.opened).count true = 1 := by simp [hnone]
    simp only [Handler.Callback.stack, hok]
    exact ⟨congrArg _ hw.scopes, Nat.le_of_eq hcount, by simp [hcount], hw.sessions⟩

theorem Held.leaveScope (hw : w.Held) : (w.next (.recording settings) .leaveScope).Held := by
  have hcall : (((Handler.recording settings).call .leaveScope).runOn w.state).2 =
      (Handler.leaveScope.runOn w.state).2 := by simp [Handler.call]
  unfold next
  rw [hcall]
  simp only [Handler.Callback.stack]
  obtain ⟨state, opened⟩ := w
  obtain rfl : state.scopes = opened := hw.scopes
  rcases hscopes : state.scopes with _ | ⟨opened, scopes⟩
  · have hstate : (Handler.leaveScope.runOn state).2 = state := by
      simp [Handler.leaveScope, hscopes]
    rw [hstate]
    rw [hscopes] at hw
    exact hw
  · have honce := hw.once
    have hlocked := hw.locked
    simp only [hscopes] at honce hlocked
    cases opened with
    | true =>
      rw [Handler.runOn_leaveScope_true hscopes]
      have hnone : scopes.count true = 0 := by
        rw [List.count_cons_self] at honce
        omega
      exact ⟨rfl, by simp [hnone], by simp [hnone], hw.sessions⟩
    | false =>
      rw [Handler.runOn_leaveScope_false hscopes]
      rw [List.count_cons_of_ne (by decide)] at honce hlocked
      exact ⟨rfl, honce, hlocked, hw.sessions⟩

/-- One callback keeps the load lock with the one scope that could open its transaction. -/
theorem held_next (hw : w.Held) {c : Handler.Callback}
    (h : (((Handler.recording settings).call c).runOn w.state).1 ≠ .error .lockHeld) :
    (w.next (.recording settings) c).Held := by
  cases c with
  | openScope n => exact hw.openScope h
  | leaveScope => exact hw.leaveScope
  | openFile path =>
    exact hw.of_meets (meets_level_of_around (Load.meets_around (Handler.meets_openFile path)))
  | openSession n =>
    exact hw.of_meets (meets_level_of_around
      (Load.meets_around (@Handler.meets_openSession settings n)))
  | globalRules rules =>
    exact hw.of_meets (meets_level_of_around
      (Load.meets_around (@Handler.meets_globalRules settings rules)))
  | closeSession => exact hw.of_meets (meets_level_of_around (@Handler.meets_closeSession settings))
  | openTransaction n => exact hw.of_meets (meets_level_of_within (Handler.meets_openTransaction n))
  | closeTransaction => exact hw.of_meets (meets_level_of_within Handler.meets_closeTransaction)
  | discardTransaction =>
    exact hw.of_meets (meets_level_of_within
      (Handler.meets_discardTransaction.bind fun _ => .pure _))
  | applyToAll rules =>
    exact hw.of_meets (meets_level_of_within (@Handler.meets_applyToAll settings rules))
  | clientRequest n =>
    exact hw.of_meets (meets_level_of_within (Handler.meets_tell .clientRequest n))
  | proxyRequest n =>
    exact hw.of_meets (meets_level_of_within (Handler.meets_tell .proxyRequest n))
  | serverResponse n =>
    exact hw.of_meets (meets_level_of_within (Handler.meets_tell .serverResponse n))
  | proxyResponse n =>
    exact hw.of_meets (meets_level_of_within (Handler.meets_tell .proxyResponse n))

/-! ### Any callbacks -/

/-- What there is before the first callback, on a run whose sessions have transactions and whose
load lock is free. -/
theorem held_start {run : RunState} (hlocked : run.locked = false)
    (hssns : ∀ ssn ∈ run.sessions, ssn.transactions ≠ []) (path : String) :
    (start run path).Held where
  scopes := rfl
  once := Nat.zero_le 1
  locked := by simp [start, LoadState.start, hlocked]
  sessions := hssns

/-- Any callbacks keep the load lock with the one scope that could open its transaction, if none of
them waits for the lock. -/
theorem held_after (hw : w.Held) {cs : List Handler.Callback}
    (h : Unblocked (.recording settings) w cs) : (w.after (.recording settings) cs).Held := by
  induction cs generalizing w with
  | nil => exact hw
  | cons c cs ih => exact ih (held_next hw h.1) h.2

/-- What holds between callbacks. -/
structure Disciplined (settings : Settings) (w : Told) : Prop where
  /-- The load lock is held exactly if one of the scopes could open its transaction. -/
  locked_iff : w.state.run.locked = true ↔ w.opened.count true = 1
  /-- A scope that cannot open its transaction changes neither the lock nor the open transaction. -/
  enter_failed : ∀ n report,
    (((Handler.recording settings).openScope n).runOn w.state).1 = .ok report → report.ok = false →
      (w.next (.recording settings) (.openScope n)).state.run.locked = w.state.run.locked ∧
      (w.next (.recording settings) (.openScope n)).state.transaction = w.state.transaction
  /-- Neither does one that cannot be entered. -/
  enter_fault : ∀ n e,
    (((Handler.recording settings).openScope n).runOn w.state).1 = .error e →
      (w.next (.recording settings) (.openScope n)).state = w.state
  /-- Leaving a scope that could not open its transaction changes neither of them. -/
  leave_failed : ∀ opened, w.opened = false :: opened →
    (w.next (.recording settings) .leaveScope).state.run.locked = w.state.run.locked ∧
      (w.next (.recording settings) .leaveScope).state.transaction = w.state.transaction
  /-- After a scope that could open its transaction, none is open, and the lock is free. -/
  leave_opened : ∀ opened, w.opened = true :: opened →
    (w.next (.recording settings) .leaveScope).state.run.locked = false ∧
      (w.next (.recording settings) .leaveScope).state.transaction = none
  /-- Closing a transaction is out of place exactly if none is open. -/
  close_iff : (((Handler.recording settings).closeTransaction).runOn w.state).1 =
    .error .noTransaction ↔ w.state.transaction = none
  /-- Otherwise it stops only for want of a session. -/
  close_fault : ∀ e, (((Handler.recording settings).closeTransaction).runOn w.state).1 = .error e →
    e = .noTransaction ∨ e = .detached ∧ w.state.session = none
  /-- Every session of the run has transactions. -/
  sessions : ∀ ssn ∈ w.state.run.sessions, ssn.transactions ≠ []
  /-- A file that is loaded now leaves the lock and the open transaction as they are, whether it
  ends with a report or at a fault. -/
  loadFile : ∀ files p,
    let out := ((Handler.recording settings).loadFile files p).runOn w.state
    out.2.run.locked = w.state.run.locked ∧ out.2.transaction = w.state.transaction ∧
      (out.1 = .error .lockHeld → w.state.run.locked = true) ∧
      ∀ ssn ∈ out.2.run.sessions, ssn.transactions ≠ []

theorem state_next_openScope (w : Told) (n : Node) :
    (w.next (.recording settings) (.openScope n)).state =
      (((Handler.recording settings).openScope n).runOn w.state).2 := rfl

theorem state_next_leaveScope (w : Told) :
    (w.next (.recording settings) .leaveScope).state = (Handler.leaveScope.runOn w.state).2 := by
  simp [next, Handler.call]

/-- What closing a transaction can come to. -/
theorem closeTransaction_cases (settings : Settings) (s : LoadState) :
    let r := (((Handler.recording settings).closeTransaction).runOn s).1
    s.transaction = none ∧ r = .error .noTransaction ∨
      s.transaction ≠ none ∧
        ((∃ report, r = .ok report) ∨ r = .error .detached ∧ s.session = none) := by
  cases ht : s.transaction with
  | none => exact .inl ⟨rfl, by simp [Handler.closeTransaction, Step.runOn_bind, ht]⟩
  | some t =>
    refine .inr ⟨nofun, ?_⟩
    simp only [Handler.closeTransaction, Step.runOn_bind_of_ok (Step.runOn_get _), ht,
      Step.runOn_bind_of_ok (Step.runOn_set _ _)]
    split
    · split
      · rename_i hssn
        exact .inr ⟨rfl, Option.isNone_iff_eq_none.1 hssn⟩
      · exact .inl ⟨_, rfl⟩
    · exact .inl ⟨_, rfl⟩

theorem Held.disciplined (hw : w.Held) : w.Disciplined settings where
  locked_iff := hw.locked
  enter_failed n report hreport hok := by
    have hentering := Handler.entering_openScope settings w.state n
    rw [state_next_openScope]
    rw [hreport] at hentering
    generalize (((Handler.recording settings).openScope n).runOn w.state).2 = t at hentering ⊢
    cases hentering with
    | failed => exact ⟨rfl, rfl⟩
    | opened _ hok' => rw [hok] at hok'; cases hok'
  enter_fault n e he := by
    have hentering := Handler.entering_openScope settings w.state n
    rw [state_next_openScope]
    rw [he] at hentering
    generalize (((Handler.recording settings).openScope n).runOn w.state).2 = t at hentering ⊢
    cases hentering <;> rfl
  leave_failed opened h := by
    rw [state_next_leaveScope, Handler.runOn_leaveScope_false (hw.scopes.trans h)]
    exact ⟨rfl, rfl⟩
  leave_opened opened h := by
    rw [state_next_leaveScope, Handler.runOn_leaveScope_true (hw.scopes.trans h)]
    exact ⟨rfl, rfl⟩
  close_iff := by
    obtain ⟨ht, hr⟩ | ⟨ht, ⟨report, hr⟩ | ⟨hr, -⟩⟩ := closeTransaction_cases settings w.state
    · exact iff_of_true hr ht
    · exact iff_of_false (by rw [hr]; nofun) ht
    · exact iff_of_false (by rw [hr]; nofun) ht
  close_fault e he := by
    obtain ⟨-, hr⟩ | ⟨-, ⟨report, hr⟩ | ⟨hr, hssn⟩⟩ := closeTransaction_cases settings w.state
    · cases hr.symm.trans he
      exact .inl rfl
    · cases hr.symm.trans he
    · cases hr.symm.trans he
      exact .inr ⟨rfl, hssn⟩
  sessions := hw.sessions
  loadFile files p := by
    obtain ⟨⟨hhold, ht, hssns⟩, hfault⟩ := @Handler.meets_loadFile settings files p w.state
    refine ⟨congrArg Prod.snd hhold, ht, fun he => hfault _ he rfl, fun ssn hssn => ?_⟩
    exact (hssns ssn hssn).elim (hw.sessions ssn) id

/-- **Who holds the load lock.** A run whose sessions have transactions and whose load lock is free
is loaded by any callbacks, with faults or without, of which none takes the lock while it is held.
Then the lock is held exactly by the scope that could open its transaction, scopes that could not
open one change nothing, and those that could leave none open behind.  In particular a file that is
loaded into the run leaves the lock free and no transaction open, and does not wait for it. -/
theorem disciplined_after (settings : Settings) {run : RunState} (hlocked : run.locked = false)
    (hssns : ∀ ssn ∈ run.sessions, ssn.transactions ≠ []) (path : String)
    {cs : List Handler.Callback} (h : Unblocked (.recording settings) (start run path) cs) :
    Disciplined settings ((start run path).after (.recording settings) cs) ∧
    ∀ files p,
      let out := ((Handler.recording settings).loadFile files p).runOn (.start run path)
      out.2.run.locked = false ∧ out.2.transaction = none ∧ out.1 ≠ .error .lockHeld := by
  have hstart := held_start hlocked hssns path
  refine ⟨(held_after hstart h).disciplined, fun files p => ?_⟩
  obtain ⟨hl, ht, hfault, -⟩ := (@Held.disciplined settings _ hstart).loadFile files p
  refine ⟨hl.trans hlocked, ht, fun he => ?_⟩
  have hheld : run.locked = true := hfault he
  rw [hlocked] at hheld
  cases hheld

/-- A transaction node without a response. -/
def demoHalf : Node := .mapping 3 [(.scalar 3 "client-request", .mapping 4 [])]

/-- A transaction node with both messages. -/
def demoWhole : Node :=
  .mapping 5 [(.scalar 5 "client-request", .mapping 6 []),
    (.scalar 7 "proxy-response", .mapping 8 [])]

/-- In a scope that holds the lock, the transaction is closed, a scope that cannot open its one is
entered and left, and closing once more is out of place. -/
def demoCallbacks : List Handler.Callback :=
  [.openSession demoHalf, .openScope demoWhole, .closeTransaction, .openScope demoHalf, .leaveScope,
    .closeTransaction]

/-- The lock is still held then, and free after the scope. -/
theorem disciplined_after_demo :
    (start .empty "a.yaml").Unblocked (.recording .default) demoCallbacks ∧
      ((start .empty "a.yaml").after (.recording .default) demoCallbacks).state.run.locked = true ∧
      (((start .empty "a.yaml").after (.recording .default) demoCallbacks).next
        (.recording .default) .leaveScope).state.run.locked = false := by
  have hunblocked : (start .empty "a.yaml").Unblocked (.recording .default) demoCallbacks := by
    refine ⟨nofun, nofun, nofun, nofun, nofun, nofun, trivial⟩
  have hssns : ∀ ssn ∈ RunState.empty.sessions, ssn.transactions ≠ [] := List.forall_mem_nil _
  have hdisciplined := (disciplined_after .default rfl hssns "a.yaml" hunblocked).1
  refine ⟨hunblocked, hdisciplined.locked_iff.2 (by decide +kernel), ?_⟩
  exact (hdisciplined.leave_opened [] (by decide +kernel)).1

end Told

end TrafficReplay
