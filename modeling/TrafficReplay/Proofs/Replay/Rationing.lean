import TrafficReplay.Proofs.Replay.Handing
import TrafficReplay.Proofs.Replay.Targets
import TrafficReplay.Replay.Rehearsal

/-!
# A dispatcher that runs out of workers

A dispatcher hands out the sessions of a repeated batch in order for as long as there are workers.
When there is none, it gives up at once: what was handed out before is counted, and no target is
taken for the session that has to be left.

* `Surroundings.Rations`: surroundings that have a worker some number of times, and then none;
* `Dispatch.Dealt`: a dispatch that has handed out some sessions more, with one lemma for each part
  of the dispatcher (`pace_cases`, `dispatchSession_cases`, `dispatchBatch_cases`,
  `dispatchTimes_cases`);
* `Dispatch.Rationed`, `dispatch_rationed`: what a whole dispatch comes to.
-/

namespace TrafficReplay

variable {σ : Type}

/-- Surroundings that have a worker some number of times, and then none.  The ration of a state is
how many more times there is one, `none` if always; what a state was given are the items that were
assigned. -/
structure Surroundings.Rations (e : Surroundings σ) (timeout : Option Binary64)
    (ration : σ → Option Nat) (given : σ → List WorkItem) : Prop where
  now : ∀ s, ration (e.now s).2 = ration s ∧ given (e.now s).2 = given s
  sleep : ∀ d s, ration (e.sleep d s) = ration s ∧ given (e.sleep d s) = given s
  take : ∀ s, ∃ s', e.takeWorker timeout s = (.ok (decide (ration s ≠ some 0)), s') ∧
    ration s' = (ration s).map (· - 1) ∧ given s' = given s
  assign : ∀ w s, ration (e.assign w s) = ration s ∧ given (e.assign w s) = given s ++ [w]

/-- A rehearsal has as many workers as it was started with. -/
theorem Rehearsal.rations (timeout : Option Binary64) :
    Rehearsal.surroundings.Rations timeout Rehearsal.available
      (fun r => r.assigned.map Prod.snd) where
  now _ := ⟨rfl, rfl⟩
  sleep _ _ := ⟨rfl, rfl⟩
  take r := by
    obtain ⟨clock, available, readings, assigned, sleeps, asked⟩ := r
    rcases available with _ | _ | n
    · exact ⟨_, rfl, rfl, rfl⟩
    · exact ⟨_, rfl, rfl, rfl⟩
    · exact ⟨_, rfl, rfl, rfl⟩
  assign _ _ := ⟨rfl, List.map_append⟩

/-! ### Sessions that were handed out -/

/-- A dispatch that has handed out some sessions more, in a number of complete passes. -/
structure Dispatch.Dealt (ration : σ → Option Nat) (given : σ → List WorkItem) (d d' : Dispatch σ)
    (l : List Session) (passes : Nat) : Prop where
  ration : ration d'.outside = (ration d.outside).map (· - l.length)
  given : given d'.outside = given d.outside ++ d.rotation.deal l
  rotation : d'.rotation = d.rotation.after (l.map Session.protocol)
  sessions : d'.stats.sessions = d.stats.sessions + l.length
  transactions : d'.stats.transactions = d.stats.transactions + RunState.transactionCount l
  repetitions : d'.stats.repetitions = d.stats.repetitions + passes
  aborted : d'.stats.aborted = d.stats.aborted
  report : d'.report = d.report

/-- A dispatch that has given up because there is no worker for a session. -/
def Dispatch.gaveUp (d : Dispatch σ) (ssn : Session) : Dispatch σ :=
  { d with
    stats := { d.stats with aborted := true }
    report := d.report ++
      [⟨.error, "Failed to get worker thread for session at " ++ ssn.location ++ "."⟩] }

section

variable {ration : σ → Option Nat} {given : σ → List WorkItem} {e : Surroundings σ} {plan : Plan}
  {d d₁ d₂ : Dispatch σ} {l l' ssns : List Session} {m n : Nat}

theorem Dispatch.dealt_outside {s : σ} (hration : ration s = ration d.outside)
    (hgiven : given s = given d.outside) :
    d.Dealt ration given { d with outside := s } [] 0 where
  ration := by simp [hration]
  given := by simp [hgiven, Rotation.deal]
  rotation := rfl
  sessions := by simp
  transactions := by simp [RunState.transactionCount]
  repetitions := by simp
  aborted := rfl
  report := rfl

theorem Dispatch.Dealt.trans (h : d.Dealt ration given d₁ l m)
    (h' : d₁.Dealt ration given d₂ l' n) : d.Dealt ration given d₂ (l ++ l') (m + n) where
  ration := by
    rw [h'.ration, h.ration, Option.map_map, List.length_append]
    cases ration d.outside with
    | none => rfl
    | some k => exact congrArg some (Nat.sub_sub k l.length l'.length)
  given := by
    rw [h'.given, h.given, h.rotation, List.append_assoc, ← Rotation.deal_append]
  rotation := by rw [h'.rotation, h.rotation, List.map_append, Rotation.after_append]
  sessions := by rw [h'.sessions, h.sessions, List.length_append]; omega
  transactions := by
    rw [h'.transactions, h.transactions, RunState.transactionCount_append]; omega
  repetitions := by rw [h'.repetitions, h.repetitions]; omega
  aborted := h'.aborted.trans h.aborted
  report := h'.report.trans h.report

/-! ### The parts of the dispatcher -/

/-- A pause is taken, unless the time of the session cannot be computed. -/
theorem pace_cases (he : e.Rations plan.workerTimeout ration given)
    (multiplier : Quantity) (d : Dispatch σ)
    (baseline : Int) (ssn : Session) :
    (∃ f d', (pace e plan multiplier baseline ssn).runOn d = (.error (.arithmetic f), d')) ∨
    ∃ d', (pace e plan multiplier baseline ssn).runOn d = (.ok (), d') ∧
      d.Dealt ration given d' [] 0 := by
  have hnow : (OnDispatch.outside e.now).runOn d =
      (.ok (e.now d.outside).1, { d with outside := (e.now d.outside).2 }) := rfl
  have hlook : d.Dealt ration given { d with outside := (e.now d.outside).2 } [] 0 :=
    Dispatch.dealt_outside (he.now _).1 (he.now _).2
  unfold pace
  rw [Step.runOn_bind_of_ok hnow]
  cases hdue : dueAfter multiplier ssn.start with
  | error f => exact .inl ⟨f, _, Step.runOn_bind_of_error rfl⟩
  | ok due =>
    right
    have harithmetic (d : Dispatch σ) :
        (OnDispatch.arithmetic (.ok due)).runOn d = (.ok due, d) := rfl
    rw [Step.runOn_bind_of_ok (harithmetic _)]
    dsimp only
    split
    · exact ⟨_, rfl, hlook.trans (Dispatch.dealt_outside (he.sleep _ _).1 (he.sleep _ _).2)⟩
    · exact ⟨_, rfl, hlook⟩

/-- A session is handed out with the next target if there is a worker for it; otherwise the
dispatcher gives up before it takes a target. -/
theorem dispatchSession_cases (he : e.Rations plan.workerTimeout ration given)
    (multiplier : Quantity) (d : Dispatch σ)
    (baseline : Int) (ssn : Session) :
    (∃ f d', (dispatchSession e plan multiplier baseline ssn).runOn d =
      (.error (.arithmetic f), d')) ∨
    (ration d.outside ≠ some 0 ∧ ∃ d',
      (dispatchSession e plan multiplier baseline ssn).runOn d = (.ok true, d') ∧
        d.Dealt ration given d' [ssn] 0) ∨
    (ration d.outside = some 0 ∧ ∃ d',
      (dispatchSession e plan multiplier baseline ssn).runOn d = (.ok false, d'.gaveUp ssn) ∧
        d.Dealt ration given d' [] 0) := by
  unfold dispatchSession
  obtain ⟨f, d', hfault⟩ | ⟨d₁, hpace, hd₁⟩ := pace_cases he multiplier d baseline ssn
  · exact .inl ⟨f, d', Step.runOn_bind_of_error hfault⟩
  right
  obtain ⟨s, htake, hration, hgiven⟩ := he.take d₁.outside
  have htaken : (OnDispatch.takeWorker e plan.workerTimeout).runOn d₁ =
      (.ok (decide (ration d₁.outside ≠ some 0)), { d₁ with outside := s }) := by
    rw [OnDispatch.takeWorker, Step.runOn_ofRun, htake]
    rfl
  have hsame : ration d₁.outside = ration d.outside := by
    rw [hd₁.ration]
    cases ration d.outside <;> rfl
  rw [Step.runOn_bind_of_ok hpace, Step.runOn_bind_of_ok htaken, hsame]
  by_cases hnone : ration d.outside = some 0
  · refine .inr ⟨hnone, { d₁ with outside := s }, ?_, hd₁.trans (Dispatch.dealt_outside ?_ hgiven)⟩
    · rw [decide_eq_false (not_not_intro hnone)]
      rfl
    · rw [hration, hsame, hnone]
      rfl
  · refine .inl ⟨hnone, ?_⟩
    rw [decide_eq_true hnone]
    refine ⟨_, rfl, hd₁.trans (?_ : d₁.Dealt ration given _ [ssn] 0)⟩
    obtain ⟨hration', hgiven'⟩ := he.assign ⟨ssn, (d₁.rotation.next ssn.protocol).1⟩ s
    exact
      { ration := hration'.trans hration
        given := by
          refine hgiven'.trans ?_
          rw [hgiven]
          rfl
        rotation := rfl
        sessions := rfl
        transactions := by simp [RunState.transactionCount]
        repetitions := (Int.add_zero _).symm
        aborted := rfl
        report := rfl }

/-- The sessions of a batch are handed out up to the first one without a worker. -/
theorem dispatchBatch_cases (he : e.Rations plan.workerTimeout ration given)
    (multiplier : Quantity) (d : Dispatch σ)
    (baseline : Int) (ssns : List Session) :
    (∃ f d', (dispatchBatch e plan multiplier baseline ssns).runOn d =
      (.error (.arithmetic f), d')) ∨
    ((∀ k ∈ ration d.outside, ssns.length ≤ k) ∧ ∃ d',
      (dispatchBatch e plan multiplier baseline ssns).runOn d = (.ok true, d') ∧
        d.Dealt ration given d' ssns 0) ∨
    ∃ k ssn d', ration d.outside = some k ∧ ssns[k]? = some ssn ∧
      (dispatchBatch e plan multiplier baseline ssns).runOn d = (.ok false, d'.gaveUp ssn) ∧
        d.Dealt ration given d' (ssns.take k) 0 := by
  induction ssns generalizing d with
  | nil =>
    exact .inr (.inl ⟨fun k _ => Nat.zero_le k, d, rfl, Dispatch.dealt_outside rfl rfl⟩)
  | cons ssn ssns ih =>
    unfold dispatchBatch
    obtain ⟨f, d', hfault⟩ | ⟨hsome, d₁, hrun, hd₁⟩ | ⟨hnone, d₁, hrun, hd₁⟩ :=
      dispatchSession_cases he multiplier d baseline ssn
    · exact .inl ⟨f, d', Step.runOn_bind_of_error hfault⟩
    · rw [Step.runOn_bind_of_ok hrun]
      have hration := hd₁.ration
      obtain ⟨f, d', hfault⟩ | ⟨hle, d₂, hrest, hd₂⟩ | ⟨k, ssn', d₂, hk, hssn', hrest, hd₂⟩ := ih d₁
      · exact .inl ⟨f, d', hfault⟩
      · refine .inr (.inl ⟨fun k hk => ?_, d₂, hrest, hd₁.trans hd₂⟩)
        rw [Option.mem_def] at hk
        have hk' := hle (k - 1) (by rw [hration, hk]; rfl)
        have hpos : k ≠ 0 := fun hzero => hsome (by rw [hk, hzero])
        rw [List.length_cons]
        omega
      · obtain ⟨k', hk', hpred⟩ := Option.map_eq_some_iff.mp (hration.symm.trans hk)
        have hpos : k' ≠ 0 := fun hzero => hsome (by rw [hk', hzero])
        obtain rfl : k' = k + 1 := by
          rw [List.length_singleton] at hpred
          omega
        exact .inr (.inr ⟨k + 1, ssn', d₂, hk', hssn', hrest, hd₁.trans hd₂⟩)
    · rw [Step.runOn_bind_of_ok hrun]
      exact .inr (.inr ⟨0, ssn, d₁, hnone, rfl, rfl, hd₁⟩)

/-- A batch is handed out again and again up to the first session without a worker; a pass counts
when its last session has been handed out. -/
theorem dispatchTimes_cases (he : e.Rations plan.workerTimeout ration given)
    (multiplier : Quantity) (d : Dispatch σ)
    (ssns : List Session) (n : Nat) :
    (∃ f d', (dispatchTimes e plan multiplier ssns n).runOn d = (.error (.arithmetic f), d')) ∨
    ((∀ k ∈ ration d.outside, n * ssns.length ≤ k) ∧ ∃ d',
      (dispatchTimes e plan multiplier ssns n).runOn d = (.ok (), d') ∧
        d.Dealt ration given d' (passes n ssns) n) ∨
    ∃ k ssn d', ration d.outside = some k ∧ (passes n ssns)[k]? = some ssn ∧
      (dispatchTimes e plan multiplier ssns n).runOn d = (.ok (), d'.gaveUp ssn) ∧
        d.Dealt ration given d' ((passes n ssns).take k) (k / ssns.length) := by
  induction n generalizing d with
  | zero =>
    refine .inr (.inl ⟨fun k _ => ?_, d, rfl, Dispatch.dealt_outside rfl rfl⟩)
    rw [Nat.zero_mul]
    exact Nat.zero_le k
  | succ n ih =>
    have hnow : (OnDispatch.outside e.now).runOn d =
        (.ok (e.now d.outside).1, { d with outside := (e.now d.outside).2 }) := rfl
    have hlook : d.Dealt ration given { d with outside := (e.now d.outside).2 } [] 0 :=
      Dispatch.dealt_outside (he.now _).1 (he.now _).2
    have hsame : ration (e.now d.outside).2 = ration d.outside := (he.now _).1
    unfold dispatchTimes
    rw [Step.runOn_bind_of_ok hnow]
    obtain ⟨f, d', hfault⟩ | ⟨hle, d₁, hbatch, hd₁⟩ | ⟨k, ssn, d₁, hk, hssn, hbatch, hd₁⟩ :=
      dispatchBatch_cases he multiplier
        { d with outside := (e.now d.outside).2 } (e.now d.outside).1 ssns
    · exact .inl ⟨f, d', Step.runOn_bind_of_error hfault⟩
    · rw [Step.runOn_bind_of_ok hbatch]
      have hcount : d₁.Dealt ration given
          { d₁ with stats := { d₁.stats with repetitions := d₁.stats.repetitions + 1 } } [] 1 :=
        { Dispatch.dealt_outside (s := d₁.outside) rfl rfl with repetitions := rfl }
      have hpass := (hlook.trans hd₁).trans hcount
      rw [List.nil_append, List.append_nil, Nat.zero_add] at hpass
      rw [passes_succ, Nat.succ_mul]
      simp only [hsame] at hle
      have hration := hpass.ration
      obtain ⟨f, d', hfault⟩ | ⟨hle', d₂, hrest, hd₂⟩ | ⟨j, ssn, d₂, hj, hssn, hrest, hd₂⟩ :=
        ih { d₁ with stats := { d₁.stats with repetitions := d₁.stats.repetitions + 1 } }
      · exact .inl ⟨f, d', hfault⟩
      · refine .inr (.inl ⟨fun k hk => ?_, d₂, hrest, ?_⟩)
        · rw [Option.mem_def] at hk
          have hk₁ := hle k hk
          have hk₂ := hle' (k - ssns.length) (by rw [hration, hk]; rfl)
          omega
        · have hall := hpass.trans hd₂
          rwa [Nat.add_comm 1] at hall
      · obtain ⟨k, hk, hrest'⟩ := Option.map_eq_some_iff.mp (hration.symm.trans hj)
        have hk₁ := hle k hk
        obtain rfl : k = ssns.length + j := by omega
        refine .inr (.inr ⟨ssns.length + j, ssn, d₂, hk, ?_, hrest, ?_⟩)
        · rwa [List.getElem?_append_right (Nat.le_add_right _ _), Nat.add_sub_cancel_left]
        · have hall := hpass.trans hd₂
          have hpos : 0 < ssns.length := by
            -- The rest of the passes has a session, so a pass has one.
            refine Nat.pos_of_ne_zero fun hzero => ?_
            obtain ⟨hlt, -⟩ := List.getElem?_eq_some_iff.mp hssn
            rw [length_passes, hzero, Nat.mul_zero] at hlt
            exact Nat.not_lt_zero j hlt
          rwa [List.take_length_add_append, Nat.add_div_left j hpos, ← Nat.add_comm 1]
    · rw [Step.runOn_bind_of_ok hbatch]
      obtain ⟨hlt, -⟩ := List.getElem?_eq_some_iff.mp hssn
      rw [passes_succ]
      refine .inr (.inr ⟨k, ssn, d₁, hsame.symm.trans hk, ?_, rfl, ?_⟩)
      · rwa [List.getElem?_append_left hlt]
      · have hall := hlook.trans hd₁
        rwa [List.take_append_of_le_length (Nat.le_of_lt hlt), Nat.div_eq_of_lt hlt]

end

/-! ### A whole dispatch -/

/-- A dispatch that has handed out some items more, and counted them. -/
structure Dispatch.HandedOn (given : σ → List WorkItem) (d d' : Dispatch σ)
    (items : List WorkItem) : Prop where
  given : given d'.outside = given d.outside ++ items
  sessions : d'.stats.sessions = d.stats.sessions + items.length
  transactions : d'.stats.transactions =
    d.stats.transactions + RunState.transactionCount (items.map WorkItem.session)
  /-- The targets are taken in turn, the place in a list going on from one pass to the next. -/
  target : ∀ i w, items[i]? = some w →
    (d.rotation.wheel w.session.protocol).items[((d.rotation.wheel w.session.protocol).cursor +
        (items.take i).countP fun v => v.session.protocol.sharesTargets w.session.protocol) %
          (d.rotation.wheel w.session.protocol).items.length]? = some w.target
  /-- No target is taken but for an item. -/
  rotation : ∀ p, (d'.rotation.wheel p).items = (d.rotation.wheel p).items ∧
    (d'.rotation.wheel p).cursor = ((d.rotation.wheel p).cursor +
      items.countP fun w => w.session.protocol.sharesTargets p) % (d.rotation.wheel p).items.length

/-- A dispatch that has handed out items of a batch of sessions, repeated as planned, for as long as
there was a worker. -/
structure Dispatch.Rationed (ration : σ → Option Nat) (given : σ → List WorkItem) (plan : Plan)
    (ssns : List Session) (d d' : Dispatch σ) (items : List WorkItem) : Prop
    extends d.HandedOn given d' items where
  /-- The sessions come in order, as many as there are workers for. -/
  inOrder : items.map WorkItem.session =
    (ration d.outside).elim (passes plan.repetitions ssns) (passes plan.repetitions ssns).take
  aborted : d'.stats.aborted = true ↔
    ∃ k ∈ ration d.outside, k < plan.repetitions * ssns.length
  /-- A dispatch that was cut short tells the session for which there was no worker, and counts the
  complete passes. -/
  short : ∀ k ∈ ration d.outside, k < plan.repetitions * ssns.length →
    d'.stats.repetitions = (k / ssns.length : Nat) ∧
      ∃ ssn, (passes plan.repetitions ssns)[k]? = some ssn ∧
        d'.report = d.report ++
          [⟨.error, "Failed to get worker thread for session at " ++ ssn.location ++ "."⟩]
  /-- Any other one tells nothing. -/
  whole : (∀ k ∈ ration d.outside, plan.repetitions * ssns.length ≤ k) →
    d'.stats.repetitions = plan.repetitions ∧ d'.report = d.report

section

variable {ration : σ → Option Nat} {given : σ → List WorkItem} {e : Surroundings σ} {plan : Plan}
  {d d' : Dispatch σ} {l ssns : List Session} {m : Nat}

theorem Dispatch.Dealt.handedOn (h : d.Dealt ration given d' l m) :
    d.HandedOn given d' (d.rotation.deal l) where
  given := h.given
  sessions := by
    rw [h.sessions, ← List.length_map WorkItem.session, Rotation.map_session_deal]
  transactions := by rw [h.transactions, Rotation.map_session_deal]
  target _ _ hw := d.rotation.getElem?_deal hw
  rotation p := by
    rw [h.rotation, Rotation.countP_deal]
    exact ⟨Rotation.items_wheel_after _ _ _, Rotation.cursor_wheel_after _ _ _⟩

/-- A batch for which there are workers is handed out as a whole. -/
theorem Dispatch.Dealt.rationed_of_le
    (h : d.Dealt ration given d' (passes plan.repetitions ssns) plan.repetitions)
    (haborted : d.stats.aborted = false) (hrepetitions : d.stats.repetitions = 0)
    (hle : ∀ k ∈ ration d.outside, plan.repetitions * ssns.length ≤ k) :
    d.Rationed ration given plan ssns d' (d.rotation.deal (passes plan.repetitions ssns)) where
  toHandedOn := h.handedOn
  inOrder := by
    rw [Rotation.map_session_deal]
    cases hration : ration d.outside with
    | none => rfl
    | some k =>
      refine (List.take_of_length_le ?_).symm
      rw [length_passes]
      exact hle k hration
  aborted := by
    rw [h.aborted, haborted]
    exact ⟨nofun, fun ⟨k, hk, hlt⟩ => absurd (hle k hk) (Nat.not_le_of_lt hlt)⟩
  short k hk hlt := absurd (hle k hk) (Nat.not_le_of_lt hlt)
  whole _ := ⟨by rw [h.repetitions, hrepetitions, Int.zero_add], h.report⟩

/-- A batch for which there are not enough workers is handed out as far as they go. -/
theorem Dispatch.Dealt.rationed_gaveUp {k : Nat} {ssn : Session}
    (h : d.Dealt ration given d' ((passes plan.repetitions ssns).take k) (k / ssns.length))
    (hrepetitions : d.stats.repetitions = 0) (hk : ration d.outside = some k)
    (hssn : (passes plan.repetitions ssns)[k]? = some ssn) :
    d.Rationed ration given plan ssns (d'.gaveUp ssn)
      (d.rotation.deal ((passes plan.repetitions ssns).take k)) := by
  have hlt : k < plan.repetitions * ssns.length := by
    obtain ⟨hlt, -⟩ := List.getElem?_eq_some_iff.mp hssn
    rwa [length_passes] at hlt
  exact
    { h.handedOn with
      inOrder := by rw [Rotation.map_session_deal, hk]; rfl
      aborted := ⟨fun _ => ⟨k, hk, hlt⟩, fun _ => rfl⟩
      short := by
        intro k' hk' _
        obtain rfl : k = k' := Option.some.inj (hk.symm.trans hk')
        refine ⟨?_, ssn, hssn, congrArg (· ++ _) h.report⟩
        exact h.repetitions.trans (by rw [hrepetitions, Int.zero_add])
      whole := fun hle => absurd (hle k hk) (Nat.not_le_of_lt hlt) }

/-- Among surroundings with a ration of workers, a dispatch whose times can all be computed hands out
the sessions of the repeated batch in order up to the end of the ration, each with the target in
turn, counts exactly these, and is aborted, with one error, exactly if the ration was too short. -/
theorem dispatch_rationed (plan : Plan) (he : e.Rations plan.workerTimeout ration given)
    (multiplier : Quantity) (ssns : List Session) (s : σ) (rotation : Rotation)
    (harithmetic : ∀ f, ((dispatch e plan multiplier ssns).runOn (.start s rotation)).1 ≠
      .error (.arithmetic f)) :
    ∃ d' items, (dispatch e plan multiplier ssns).runOn (.start s rotation) = (.ok (), d') ∧
      (Dispatch.start s rotation).Rationed ration given plan ssns d' items := by
  obtain ⟨f, d', hfault⟩ | ⟨hle, d', hrun, hd⟩ | ⟨k, ssn, d', hk, hssn, hrun, hd⟩ :=
    dispatchTimes_cases he multiplier (.start s rotation) ssns plan.repetitions
  · exact absurd (congrArg Prod.fst hfault) (harithmetic f)
  · exact ⟨d', _, hrun, hd.rationed_of_le rfl rfl hle⟩
  · exact ⟨d'.gaveUp ssn, _, hrun, hd.rationed_gaveUp rfl hk hssn⟩

end

/-- Two targets for each list, the second HTTPS target in turn. -/
def twoTargets : Rotation where
  http := ⟨[⟨"10.0.0.1", 80, "a"⟩, ⟨"10.0.0.2", 80, "b"⟩], 0, by decide⟩
  https := ⟨[⟨"10.0.0.3", 443, "c"⟩, ⟨"10.0.0.4", 443, "d"⟩], 1, by decide⟩

/-- A plain session, and one over TLS with one transaction. -/
def plainAndTls : List Session :=
  [Session.blank "f.yaml" 2,
    { Session.blank "f.yaml" 9 with
      isTls := true
      protocol := .tls
      transactions := [Transaction.blank false] }]

/-- Two passes, with three workers in all. -/
def twoPasses : Plan := ⟨2, 500000, none⟩

def threeWorkers : Rehearsal := .start ⟨0, 1, 0⟩ (some 3) []

/-- The last session is left, after one complete pass. -/
theorem dispatch_rationed_threeWorkers :
    ∃ d' items,
      (dispatch Rehearsal.surroundings twoPasses (.whole 1) plainAndTls).runOn
        (.start threeWorkers twoTargets) = (.ok (), d') ∧
      d'.outside.assigned.map Prod.snd = items ∧
      items.map (·.session.line) = [2, 9, 2] ∧ items.map (·.target.name) = ["a", "d", "b"] ∧
      d'.stats.aborted = true ∧ d'.stats.repetitions = 1 := by
  have hok : ((dispatch Rehearsal.surroundings twoPasses (.whole 1) plainAndTls).runOn
      (.start threeWorkers twoTargets)).1.isOk = true := by decide +kernel
  obtain ⟨d', items, hrun, h⟩ :=
    dispatch_rationed twoPasses (Rehearsal.rations none) (.whole 1) plainAndTls threeWorkers
      twoTargets (fun f hf => by rw [hf] at hok; cases hok)
  have hsessions : items.map WorkItem.session = plainAndTls ++ plainAndTls.take 1 := h.inOrder
  obtain ⟨a, _, rfl, ha, hsessions⟩ := List.map_eq_cons_iff.mp hsessions
  obtain ⟨b, _, rfl, hb, hsessions⟩ := List.map_eq_cons_iff.mp hsessions
  obtain ⟨c, _, rfl, hc, hsessions⟩ := List.map_eq_cons_iff.mp hsessions
  obtain rfl := List.map_eq_nil_iff.mp hsessions
  have hfirst := h.target 0 a rfl
  have hsecond := h.target 1 b rfl
  have hthird := h.target 2 c rfl
  refine ⟨d', [a, b, c], hrun, h.given, ?_, ?_, h.aborted.mpr ⟨3, rfl, by decide⟩,
    (h.short 3 rfl (by decide)).1⟩
  · rw [List.map_cons, List.map_cons, List.map_cons, ha, hb, hc]
    rfl
  · simp [ha, hb, hc, Dispatch.start, twoTargets, Rotation.wheel, Session.blank,
      Protocol.sharesTargets] at hfirst hsecond hthird
    simp [← hfirst, ← hsecond, ← hthird]

end TrafficReplay
