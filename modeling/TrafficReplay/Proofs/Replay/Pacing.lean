import TrafficReplay.Proofs.Contract
import TrafficReplay.Proofs.Loading.Demands
import TrafficReplay.Proofs.Replay.Rationing
import TrafficReplay.Proofs.Replay.Summary
import TrafficReplay.Proofs.Traffic.Batch

/-!
# Times that can be computed

The multiplier of a replay and the times of its sessions are floating point numbers, but starts and
rates are whole numbers of any size.  What has no number next to it cannot be paced.  Nothing else
is too large: as no session starts after the span of its batch, its time is never far beyond what
the transactions of the batch take at the rate.

* `rateMultiplier_ok_iff`: when there is a multiplier;
* `dueAfter_of_lt`, `dueAfter_of_le`: which sessions are due at a time that can be computed;
* `meets_dispatch`, `dispatch_stops`: what the times of the sessions come to in a dispatch;
* `RunState.paced_prepare`: where the pacing of a prepared batch fails.
-/

namespace TrafficReplay

open Binary64

/-! ### Multipliers -/

section

variable {transactions span rate : Int} {m : Binary64}

/-- The multiplier of a batch that is to be paced is a quotient of a product by a product. -/
theorem rateMultiplier_eq_ok_iff (hpaced : ¬ (rate = 0 ∨ transactions = 0 ∨ span ≤ 0)) :
    rateMultiplier transactions span (some (.whole rate)) = .ok m ↔
      ∃ n k d, ofInt transactions = .ok n ∧ ofInt microsecondsPerSecond = .ok k ∧
        ofInt (rate * span) = .ok d ∧ (n.mul k).div d = .ok m := by
  have hzero : ¬ ((Quantity.whole rate).isZero = true ∨ transactions = 0 ∨ span ≤ 0) := by
    simpa [Quantity.isZero] using hpaced
  unfold rateMultiplier
  dsimp only
  rw [if_neg hzero]
  constructor
  · intro hm
    cases hn : ofInt transactions with
    | error f => rw [hn] at hm; cases hm
    | ok n =>
      cases hk : ofInt microsecondsPerSecond with
      | error f => rw [hn, hk] at hm; cases hm
      | ok k =>
        cases hd : ofInt (rate * span) with
        | error f => rw [hn, hk, Quantity.times, hd] at hm; cases hm
        | ok d =>
          rw [hn, hk, Quantity.times, hd] at hm
          exact ⟨n, k, d, rfl, rfl, rfl, hm⟩
  · rintro ⟨n, k, d, hn, hk, hd, hm⟩
    rw [hn, hk, Quantity.times, hd]
    exact hm

theorem rateMultiplier_of_not_paced (h : rate = 0 ∨ transactions = 0 ∨ span ≤ 0) :
    rateMultiplier transactions span (some (.whole rate)) = .ok (.zero false) := by
  unfold rateMultiplier
  exact if_pos (by simpa [Quantity.isZero] using h)

theorem ofInt_microsecondsPerSecond : ∃ k, ofInt microsecondsPerSecond = .ok k := by
  refine ofInt_ok_iff.2 (Nat.lt_of_lt_of_le ?_ (Nat.le_mul_of_pos_right _ (by positivity)))
  decide

/-- **Where there is a multiplier.**  It is the divisor, and the number of transactions, that can be
too large; the quotient is never refused. -/
theorem rateMultiplier_ok_iff :
    (∃ m, rateMultiplier transactions span (some (.whole rate)) = .ok m) ↔
      rate = 0 ∨ transactions = 0 ∨ span ≤ 0 ∨
        transactions.natAbs < integerLimit ∧ (rate * span).natAbs < integerLimit := by
  by_cases h : rate = 0 ∨ transactions = 0 ∨ span ≤ 0
  · exact iff_of_true ⟨_, rateMultiplier_of_not_paced h⟩ (by tauto)
  · have hdivisor : rate * span ≠ 0 := Int.mul_ne_zero (by tauto) (by omega)
    simp only [rateMultiplier_eq_ok_iff h]
    constructor
    · rintro ⟨m, n, k, d, hn, -, hd, -⟩
      exact .inr (.inr (.inr ⟨ofInt_ok_iff.1 ⟨n, hn⟩, ofInt_ok_iff.1 ⟨d, hd⟩⟩))
    · intro hsmall
      rw [← or_assoc, ← or_assoc, or_assoc (a := rate = 0), or_iff_right h] at hsmall
      obtain ⟨htransactions, hproduct⟩ := hsmall
      obtain ⟨n, hn⟩ := ofInt_ok_iff.2 htransactions
      obtain ⟨k, hk⟩ := ofInt_microsecondsPerSecond
      obtain ⟨d, hd⟩ := ofInt_ok_iff.2 hproduct
      have hpos : 0 < d.magnitude := by
        refine lt_of_lt_of_le ?_ (le_magnitude_ofInt hdivisor hd)
        have := Int.natAbs_pos.2 hdivisor
        positivity
      obtain ⟨m, hm⟩ := @div_ok (n.mul k) d (isZero_eq_false_of_magnitude hpos)
      exact ⟨m, n, k, d, hn, hk, hd, hm⟩

/-- A time `s` up to `b`, stretched by `t` seconds over `b`, with each operand and each result up to
twice as large, and the divisor down to half as large, as it should be. -/
theorem stretched_lt {t b s : ℚ} (ht : 0 ≤ t) (hfew : t < 2 ^ 128) (hb : 1 ≤ b) (hs : s ≤ b) :
    2 * (2 * t * (2 * 1000000)) / (b / 2) < 2 ^ 160 ∧
      2 * (2 * (2 * t * (2 * 1000000)) / (b / 2)) * (2 * s) < 2 ^ 160 := by
  constructor
  · rw [div_lt_iff₀ (by linarith)]
    linarith
  · calc 2 * (2 * (2 * t * (2 * 1000000)) / (b / 2)) * (2 * s)
        = 64000000 * t * (s / b) := by
          field_simp
          ring
      _ ≤ 64000000 * t * 1 := by
          gcongr
          exact (div_le_one (by linarith)).2 hs
      _ < 2 ^ 160 := by linarith

/-- Times that start within the span stay finite when they are stretched. -/
theorem atMost_rateMultiplier (hm : rateMultiplier transactions span (some (.whole rate)) = .ok m)
    (hfew : transactions.natAbs < 2 ^ 128) {start : Int}
    (hlow : 0 ≤ start) (hhigh : start ≤ span) :
    ∃ r, m.AtMost r ∧ r * (2 * start.natAbs) < 2 ^ 1023 := by
  by_cases h : rate = 0 ∨ transactions = 0 ∨ span ≤ 0
  · rw [rateMultiplier_of_not_paced h] at hm
    cases hm
    exact ⟨0, ⟨trivial, le_of_eq (magnitude_zero false)⟩, by simp⟩
  · obtain ⟨n, k, d, hn, hk, hd, hm⟩ := (rateMultiplier_eq_ok_iff h).1 hm
    have hdivisor : rate * span ≠ 0 := Int.mul_ne_zero (by tauto) (by omega)
    have hone : (1 : ℚ) ≤ (rate * span).natAbs := by exact_mod_cast Int.natAbs_pos.2 hdivisor
    have hstart : (start.natAbs : ℚ) ≤ (rate * span).natAbs := by
      have hrate : 0 < rate.natAbs := Int.natAbs_pos.2 (by tauto)
      have hspan : start.natAbs ≤ span.natAbs := by omega
      rw [Int.natAbs_mul]
      exact_mod_cast Nat.le_trans hspan (Nat.le_mul_of_pos_left _ hrate)
    have hcount : (transactions.natAbs : ℚ) < 2 ^ 128 := by exact_mod_cast hfew
    have hsecond : (microsecondsPerSecond.natAbs : ℚ) = 1000000 := by
      norm_num [microsecondsPerSecond]
    have hlimit : (2 : ℚ) ^ 160 ≤ 2 ^ 1023 := pow_le_pow_right₀ (by norm_num) (by norm_num)
    obtain ⟨hquotient, hstretched⟩ := stretched_lt (Nat.cast_nonneg _) hcount hone hstart
    -- First the dividend is rounded, then the quotient.
    have hproduct := atMost_mul (atMost_ofInt hn) (atMost_ofInt hk)
    rw [hsecond] at hproduct
    have hproduct := hproduct (lt_of_lt_of_le (by linarith) hlimit)
    obtain ⟨m', hm', hatMost⟩ := atMost_div hproduct (ofInt_eq_ok hd).1 (by linarith)
      (le_magnitude_ofInt hdivisor hd) (lt_of_lt_of_le hquotient hlimit)
    obtain rfl : m = m' := Except.ok.inj (hm.symm.trans hm')
    exact ⟨_, hatMost, lt_of_lt_of_le hstretched hlimit⟩

/-- A start with a number next to it gives a time. -/
theorem dueAfter_of_lt (hm : rateMultiplier transactions span (some (.whole rate)) = .ok m)
    (hfew : transactions.natAbs < 2 ^ 128) {start : Int}
    (hlow : 0 ≤ start) (hhigh : start ≤ span) (h : start.natAbs < integerLimit) :
    ∃ due, dueAfter (.real m) start = .ok due := by
  obtain ⟨r, hr, hlt⟩ := atMost_rateMultiplier hm hfew hlow hhigh
  obtain ⟨x, hx⟩ := ofInt_ok_iff.2 h
  obtain ⟨due, hdue⟩ := truncate_ok (atMost_mul hr (atMost_ofInt hx) hlt).1
  refine ⟨due, ?_⟩
  rw [dueAfter, hx]
  exact hdue

/-- Any other start gives none, whatever the multiplier. -/
theorem dueAfter_of_le (m : Binary64) {start : Int} (h : integerLimit ≤ start.natAbs) :
    dueAfter (.real m) start = .error .integerTooLarge := by
  cases hx : ofInt start with
  | ok x => exact absurd (ofInt_ok_iff.1 ⟨x, hx⟩) (Nat.not_lt.2 h)
  | error f =>
    obtain rfl := ofInt_eq_error hx
    rw [dueAfter, hx]
    rfl

end

/-! ### Times in a dispatch -/

section

variable {σ : Type} {P : ArithmeticFault → Prop} {e : Surroundings σ} {plan : Plan}
  {multiplier : Quantity} {ssns : List Session} {d d' : Dispatch σ}

/-- The contract of a step of a dispatch whose computations stop at certain faults only. -/
def computing (P : ArithmeticFault → Prop) : Contract (Dispatch σ) DispatchFault :=
  .leaving (fun _ => ()) fun _ e => ∀ f, e = .arithmetic f → P f

theorem meets_outside {α : Type} (f : σ → α × σ) : (OnDispatch.outside f).Meets (computing P) :=
  .ofRun (fun _ => rfl) fun _ _ => nofun

theorem meets_arithmetic {α : Type} {x : Except ArithmeticFault α} (hx : ∀ f, x = .error f → P f) :
    (OnDispatch.arithmetic x : OnDispatch σ α).Meets (computing P) := by
  refine .update (fun _ _ _ => rfl) fun d e he f hf => ?_
  subst hf
  cases x with
  | ok a => cases he
  | error g =>
    cases he
    exact hx f rfl

theorem meets_takeWorker (timeout : Option Binary64) :
    (OnDispatch.takeWorker e timeout).Meets (computing P) := by
  refine .ofRun (fun _ => rfl) fun d e' he f hf => ?_
  subst hf
  dsimp only at he
  cases hr : (e.takeWorker timeout d.outside).1 with
  | ok r => rw [hr] at he; cases he
  | error g => rw [hr] at he; cases he

theorem meets_pace (baseline : Int) {ssn : Session}
    (hdue : ∀ f, dueAfter multiplier ssn.start = .error f → P f) :
    (pace e plan multiplier baseline ssn).Meets (computing P) := by
  unfold pace
  refine .bind (meets_outside _) fun now => .bind (meets_arithmetic hdue) fun due => ?_
  dsimp only
  split
  · exact meets_outside _
  · exact .pure _

theorem meets_handOut (ssn : Session) : (handOut e ssn).Meets (computing P) :=
  .bind (.ofRun (fun _ => rfl) fun _ _ => nofun) fun _ =>
    .bind (meets_outside _) fun _ => .modify fun _ => rfl

theorem meets_giveUp (ssn : Session) :
    (giveUp ssn : OnDispatch σ Unit).Meets (computing P) :=
  .bind (.modify fun _ => rfl) fun _ => .modify fun _ => rfl

theorem meets_dispatchSession (baseline : Int) {ssn : Session}
    (hdue : ∀ f, dueAfter multiplier ssn.start = .error f → P f) :
    (dispatchSession e plan multiplier baseline ssn).Meets (computing P) := by
  unfold dispatchSession
  refine .bind (meets_pace baseline hdue) fun _ => .bind (meets_takeWorker _) fun taken => ?_
  split
  · exact .bind (meets_handOut ssn) fun _ => .pure _
  · exact .bind (meets_giveUp ssn) fun _ => .pure _

theorem meets_dispatchBatch (baseline : Int)
    (hdue : ∀ ssn ∈ ssns, ∀ f, dueAfter multiplier ssn.start = .error f → P f) :
    (dispatchBatch e plan multiplier baseline ssns).Meets (computing P) := by
  induction ssns with
  | nil => exact .pure _
  | cons ssn ssns ih =>
    obtain ⟨hfirst, hdue⟩ := List.forall_mem_cons.1 hdue
    unfold dispatchBatch
    refine .bind (meets_dispatchSession baseline hfirst) fun taken => ?_
    split
    · exact ih hdue
    · exact .pure _

/-- A dispatch stops at no fault of a computation but those of the times of its sessions. -/
theorem meets_dispatch
    (hdue : ∀ ssn ∈ ssns, ∀ f, dueAfter multiplier ssn.start = .error f → P f) :
    (dispatch e plan multiplier ssns).Meets (computing P) := by
  unfold dispatch
  induction plan.repetitions with
  | zero => exact .pure _
  | succ n ih =>
    unfold dispatchTimes
    refine .bind (meets_outside _) fun baseline => ?_
    refine .bind (meets_dispatchBatch baseline hdue) fun complete => ?_
    split
    · exact .bind (.modify fun _ => rfl) fun _ => ih
    · exact .pure _

/-- A session that is handed out, or given up, is due at a time that can be computed. -/
theorem paces_of_dispatchSession {baseline : Int} {ssn : Session} {taken : Bool}
    (h : (dispatchSession e plan multiplier baseline ssn).runOn d = (.ok taken, d')) :
    multiplier.Paces ssn := by
  cases hdue : dueAfter multiplier ssn.start with
  | ok due => exact ⟨due, hdue⟩
  | error f =>
    have hpace : ((pace e plan multiplier baseline ssn).runOn d).1 = .error (.arithmetic f) := by
      unfold pace
      rw [hdue]
      rfl
    rcases hrun : (pace e plan multiplier baseline ssn).runOn d with ⟨r, d₁⟩
    rw [hrun] at hpace
    obtain rfl : r = _ := hpace
    rw [dispatchSession, Step.runOn_bind_of_error hrun] at h
    cases h

theorem paces_of_dispatchBatch {baseline : Int}
    (h : (dispatchBatch e plan multiplier baseline ssns).runOn d = (.ok true, d')) :
    ∀ ssn ∈ ssns, multiplier.Paces ssn := by
  induction ssns generalizing d with
  | nil => nofun
  | cons ssn ssns ih =>
    unfold dispatchBatch at h
    rcases hfirst : (dispatchSession e plan multiplier baseline ssn).runOn d with ⟨f | taken, d₁⟩
    · rw [Step.runOn_bind_of_error hfirst] at h
      cases h
    · rw [Step.runOn_bind_of_ok hfirst] at h
      cases taken with
      | false => cases h
      | true => exact List.forall_mem_cons.2 ⟨paces_of_dispatchSession hfirst, ih h⟩

/-- A dispatch with enough workers stops at the first time that cannot be computed. -/
theorem dispatch_stops {ration : σ → Option Nat} {given : σ → List WorkItem}
    (he : e.Rations plan.workerTimeout ration given) (hration : ration d.outside = none)
    (hrepetitions : 0 < plan.repetitions) (hdue : ¬ ∀ ssn ∈ ssns, multiplier.Paces ssn) :
    ∃ f, ((dispatch e plan multiplier ssns).runOn d).1 = .error (.arithmetic f) := by
  obtain ⟨n, hn⟩ := Nat.exists_eq_succ_of_ne_zero (Nat.pos_iff_ne_zero.1 hrepetitions)
  have hnow : (OnDispatch.outside e.now).runOn d =
      (.ok (e.now d.outside).1, { d with outside := (e.now d.outside).2 }) := rfl
  unfold dispatch
  rw [hn]
  unfold dispatchTimes
  rw [Step.runOn_bind_of_ok hnow]
  obtain ⟨f, d', hbatch⟩ | ⟨-, d', hbatch, -⟩ | ⟨k, ssn, d', hk, -⟩ :=
    dispatchBatch_cases he multiplier { d with outside := (e.now d.outside).2 }
      (e.now d.outside).1 ssns
  · exact ⟨f, by rw [Step.runOn_bind_of_error hbatch]⟩
  · exact absurd (paces_of_dispatchBatch hbatch) hdue
  · rw [(he.now _).1, hration] at hk
    cases hk

end

/-! ### Prepared batches -/

namespace RunState

variable {loaded run : RunState} {info : BatchInfo}

/-- A time in a prepared batch cannot be computed only if there is no number next to the span. -/
theorem dueAfter_eq_error {ssns : List Session} {rate : Int} {m : Binary64} {ssn : Session}
    {f : ArithmeticFault} (hfew : (batchInfo ssns).transactionCount < 2 ^ 128)
    (hm : rateMultiplier (batchInfo ssns).transactionCount (batchInfo ssns).span
      (some (.whole rate)) = .ok m) (hssn : ssn ∈ normalized ssns)
    (hf : dueAfter (.real m) ssn.start = .error f) :
    f = .integerTooLarge ∧ integerLimit ≤ (batchInfo ssns).span := by
  obtain ⟨hlow, hhigh⟩ := start_mem_normalized hssn
  rcases Nat.lt_or_ge ssn.start.natAbs integerLimit with hlt | hge
  · obtain ⟨due, hdue⟩ := dueAfter_of_lt hm hfew hlow hhigh hlt
    rw [hdue] at hf
    cases hf
  · rw [dueAfter_of_le m hge] at hf
    cases hf
    exact ⟨rfl, by omega⟩

/-- Without a number next to the span, the session at its end is due at no time. -/
theorem not_paces_of_le {ssns : List Session} (m : Binary64)
    (h : integerLimit ≤ (batchInfo ssns).span) :
    ¬ ∀ ssn ∈ normalized ssns, (Quantity.real m).Paces ssn := by
  intro hall
  have hpos : 2 ^ 0 ≤ integerLimit := pow_le_integerLimit (by decide)
  obtain ⟨ssn, hssn, hstart⟩ := @exists_start_eq_span ssns (by omega)
  obtain ⟨due, hdue⟩ := hall ssn hssn
  rw [dueAfter_of_le m (by omega)] at hdue
  cases hdue

/-- **Where the pacing of a prepared batch fails.** At a whole rate there is a multiplier unless
there is something to pace and no number next to the product of rate and span.  The multiplier is
finite.  With it every session is due at a time that can be computed, and no dispatch meets an
arithmetic fault, exactly if there is a number next to the span: if there is none, a dispatch that
has enough workers stops, at rate zero too. -/
theorem paced_prepare (h : prepare.runOn loaded = (.ok info, run))
    (hfew : info.transactionCount < 2 ^ 128) (rate : Nat) :
    ((∃ m, rateMultiplier info.transactionCount info.span (some (.whole rate)) = .ok m) ↔
      rate = 0 ∨ info.transactionCount = 0 ∨ info.span = 0 ∨ rate * info.span < integerLimit) ∧
    ∀ m, rateMultiplier info.transactionCount info.span (some (.whole rate)) = .ok m →
      m.IsFinite ∧
      ((∀ ssn ∈ run.sessions, (Quantity.real m).Paces ssn) ↔ info.span < integerLimit) ∧
      ∀ plan : Plan, 0 < plan.repetitions →
        (info.span < integerLimit → ∀ {σ : Type} (e : Surroundings σ) (d : Dispatch σ) f,
          ((dispatch e plan (.real m) run.sessions).runOn d).1 ≠ .error (.arithmetic f)) ∧
        (integerLimit ≤ info.span → ∀ {σ : Type} (e : Surroundings σ) {ration : σ → Option Nat}
          {given : σ → List WorkItem}, e.Rations plan.workerTimeout ration given →
          ∀ d : Dispatch σ, ration d.outside = none →
            ((dispatch e plan (.real m) run.sessions).runOn d).1 =
              .error (.arithmetic .integerTooLarge)) := by
  obtain ⟨-, rfl, buffer, -, rfl⟩ := prepare_eq_ok_iff.1 h
  have hnonneg := span_nonneg loaded.sessions
  refine ⟨?_, fun m hm => ?_⟩
  · have hcount : (batchInfo loaded.sessions).transactionCount < integerLimit :=
      Nat.lt_of_lt_of_le hfew (pow_le_integerLimit (by decide))
    have hproduct : (rate * (batchInfo loaded.sessions).span).natAbs < integerLimit ↔
        rate * (batchInfo loaded.sessions).span < integerLimit := by
      have := Int.mul_nonneg (Int.natCast_nonneg rate) hnonneg
      omega
    have hzero : (batchInfo loaded.sessions).span ≤ 0 ↔ (batchInfo loaded.sessions).span = 0 := by
      omega
    rw [rateMultiplier_ok_iff, hproduct, hzero, Int.natAbs_natCast, and_iff_right hcount,
      Int.natCast_eq_zero, Int.natCast_eq_zero]
  · have hfault : ∀ ssn ∈ normalized loaded.sessions, ∀ f,
        dueAfter (.real m) ssn.start = .error f →
          f = .integerTooLarge ∧ integerLimit ≤ (batchInfo loaded.sessions).span :=
      fun ssn hssn f hf => dueAfter_eq_error hfew hm hssn hf
    obtain ⟨r, ⟨hfinite, -⟩, -⟩ := atMost_rateMultiplier hm hfew (Int.le_refl 0) hnonneg
    refine ⟨hfinite, ⟨fun hall => ?_, fun hlt ssn hssn => ?_⟩, fun plan hrepetitions =>
      ⟨fun hlt σ e d f hd => ?_, fun hle σ e ration given he d hration => ?_⟩⟩
    · by_contra hle
      exact not_paces_of_le m (Int.not_lt.1 hle) hall
    · cases hdue : dueAfter (.real m) ssn.start with
      | ok due => exact ⟨due, hdue⟩
      | error f => exact absurd hlt (Int.not_lt.2 (hfault ssn hssn f hdue).2)
    · have hstop := ((meets_dispatch hfault : Step.Meets _ (dispatch e plan _ _)) d).2 _ hd f rfl
      exact absurd hlt (Int.not_lt.2 hstop.2)
    · have hlate := not_paces_of_le m hle
      obtain ⟨f, hf⟩ := @dispatch_stops _ _ _ _ _ d _ _ he hration hrepetitions hlate
      have hstop := ((meets_dispatch hfault : Step.Meets _ (dispatch e plan _ _)) d).2 _ hf f rfl
      rw [← hstop.1]
      exact hf

/-- Two sessions without bodies, of which the first one starts at zero, can be prepared, and span
the time until the second one. -/
theorem prepare_pair {late : Int} (hrun : loaded.frozen = false)
    (hstarts : loaded.sessions.map Session.start = [0, late]) (hlate : 0 ≤ late)
    (hbody : largestBody loaded.sessions = 0) :
    (∃ buffer, prepare.runOn loaded =
      (.ok (batchInfo loaded.sessions), loaded.prepared buffer)) ∧
      (batchInfo loaded.sessions).span = late := by
  have hsorted : (loaded.sessions.map Session.start).Pairwise fun a b => a ≤ b := by
    rw [hstarts]
    simpa using hlate
  have hfirst : ∀ ssn ∈ loaded.sessions.head?, ssn.start = 0 := by
    cases hssns : loaded.sessions with
    | nil => nofun
    | cons first rest =>
      rw [hssns] at hstarts
      rintro ssn ⟨⟩
      exact (List.cons.inj hstarts).1
  have hnormal : normalized loaded.sessions = loaded.sessions :=
    normalized_eq_self_iff.2 ⟨List.pairwise_map.1 hsorted, hfirst⟩
  refine ⟨⟨[], prepare_eq_ok_iff.2 ⟨hrun, rfl, [], ?_, rfl⟩⟩, ?_⟩
  · rw [maxContentLength_batchInfo, hbody]
    rfl
  · rw [span_batchInfo, hnormal, hstarts]
    simpa using hlate

/-- A document with two sessions, of which the second one has a start. -/
def lateDocument (start : Text) : Option Yaml.Node :=
  some (.mapping 1 [(.scalar 1 "sessions", .sequence 2
    [Handler.demoSession "0" "", Handler.demoSession start ""])])

/-- The run after the load of such a document. -/
def lateRun (start : Text) : RunState :=
  (((Handler.recording .default).walkDocument "a.yaml" (lateDocument start)).runOn
    (.start .empty "")).2.run

/-- A plan with one pass that waits for a worker as long as it takes. -/
def onePass : Plan := ⟨1, 500000, none⟩

/-- Sessions that start within five microseconds can be paced at three transactions a second. -/
theorem paced_prepare_fiveMicroseconds :
    ∃ info run m, prepare.runOn (lateRun "5000") = (.ok info, run) ∧
      info.transactionCount < 2 ^ 128 ∧
      rateMultiplier info.transactionCount info.span (some (.whole 3)) = .ok m ∧
      (∀ ssn ∈ run.sessions, (Quantity.real m).Paces ssn) ∧
      ∀ f, ((dispatch Rehearsal.surroundings onePass (.real m) run.sessions).runOn
        (.start threeWorkers twoTargets)).1 ≠ .error (.arithmetic f) := by
  obtain ⟨hrun, hstarts, hbody, hcount⟩ :
      (lateRun "5000").frozen = false ∧ (lateRun "5000").sessions.map Session.start = [0, 5] ∧
        largestBody (lateRun "5000").sessions = 0 ∧
        transactionCount (lateRun "5000").sessions < 2 ^ 128 := by decide +kernel
  rw [← transactionCount_normalized] at hcount
  obtain ⟨⟨buffer, h⟩, hspan⟩ := prepare_pair hrun hstarts (by decide) hbody
  have hlimit : 2 ^ 4 ≤ integerLimit := pow_le_integerLimit (by decide)
  obtain ⟨hreturns, hpaces⟩ := paced_prepare h hcount 3
  obtain ⟨m, hm⟩ := hreturns.2 (.inr (.inr (.inr (by rw [hspan]; omega))))
  obtain ⟨-, hall, hdispatch⟩ := hpaces m hm
  have hsmall : (batchInfo (lateRun "5000").sessions).span < integerLimit := by
    rw [hspan]
    omega
  exact ⟨_, _, m, h, hcount, hm, hall.2 hsmall, (hdispatch onePass (by decide)).1 hsmall _ _⟩

/-- At rate zero the second session, which starts late, stops the dispatch. -/
theorem not_paced_late :
    ∃ info run, prepare.runOn (lateRun (Handler.nines 320)) = (.ok info, run) ∧
      rateMultiplier info.transactionCount info.span (some (.whole 0)) = .ok (.zero false) ∧
      ∃ f, ((dispatch Rehearsal.surroundings onePass (.real (.zero false)) run.sessions).runOn
        (.start (.start ⟨0, 1, 0⟩ none []) twoTargets)).1 = .error (.arithmetic f) := by
  obtain ⟨hrun, hstarts, hbody⟩ :
      (lateRun (Handler.nines 320)).frozen = false ∧
        (lateRun (Handler.nines 320)).sessions.map Session.start = [0, 10 ^ 317 - 1] ∧
        largestBody (lateRun (Handler.nines 320)).sessions = 0 := by decide +kernel
  obtain ⟨⟨buffer, h⟩, hspan⟩ := prepare_pair hrun hstarts (by decide +kernel) hbody
  have hlimit : (2 : Int) ^ 1024 ≤ 10 ^ 317 - 1 := by decide +kernel
  have hlate : integerLimit ≤ (batchInfo (lateRun (Handler.nines 320)).sessions).span := by
    rw [hspan]
    refine Int.le_trans ?_ hlimit
    exact_mod_cast integerLimit_le_pow
  refine ⟨_, _, h, rateMultiplier_of_not_paced (.inl rfl), ?_⟩
  exact dispatch_stops (Rehearsal.rations _) rfl (by decide) (not_paces_of_le _ hlate)

end RunState

end TrafficReplay
