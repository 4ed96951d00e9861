import TrafficReplay.Proofs.Traffic.Batch

/-!
# What a refused operation leaves

An operation on the state of a run that stops at a fault leaves the state as it was, unless it makes
a buffer.  The size of the largest body is kept before the buffer is made, and the preparation of a
batch puts the sessions in order before that; so both stay when a buffer of that size cannot be
made, and the old buffer stays with them.

* `Step.AllOrNothing`: steps that leave the state as it was when they stop at a fault;
* `RunState.allOrNothing_perform`: operations that make no buffer are of this kind;
* `RunState.refused_eq_beforeBuffer`: what any operation leaves;
* `RunState.Backed`, `RunState.backed_performAll`: the buffer after some operations;
* `RunState.refused_leaves`: all of this together.
-/

namespace TrafficReplay

/-! ### Steps that do all or nothing -/

namespace Step

variable {σ ε α β : Type} {after : σ → Prop} {s : σ} {x : Step σ ε α} {f : α → Step σ ε β}

/-- That a step on a state stops at a fault and leaves the state as it was, or it returns and leaves
a state of some kind. -/
def AllOrNothing (after : σ → Prop) (s : σ) (x : Step σ ε α) : Prop :=
  (∃ e, x.runOn s = (.error e, s)) ∨ ∃ a t, x.runOn s = (.ok a, t) ∧ after t

namespace AllOrNothing

theorem returns {t : σ} {a : α} (h : x.runOn s = (.ok a, t)) (ht : after t) :
    AllOrNothing after s x :=
  .inr ⟨a, t, h, ht⟩

protected theorem throw (e : ε) : AllOrNothing after s (throw e : Step σ ε α) := .inl ⟨e, rfl⟩

/-- After a look at the state it is the state that was seen. -/
theorem getBind {f : σ → Step σ ε β} (h : AllOrNothing after s (f s)) :
    AllOrNothing after s (get >>= f) := by
  rwa [AllOrNothing, runOn_bind_of_ok (runOn_get s)]

theorem lift (hs : after s) (y : Except ε α) : AllOrNothing after s (liftM y : Step σ ε α) := by
  cases y with
  | error e => exact .inl ⟨e, rfl⟩
  | ok a => exact .inr ⟨a, s, rfl, hs⟩

/-- A computation without a state may stop the step, which has done nothing by then. -/
theorem liftBind {y : Except ε α} (h : ∀ a, AllOrNothing after s (f a)) :
    AllOrNothing after s ((liftM y : Step σ ε α) >>= f) := by
  cases y with
  | error e => exact .inl ⟨e, rfl⟩
  | ok a => exact h a

/-- What comes behind must not stop. -/
theorem bind {between : σ → Prop} (hx : AllOrNothing between s x)
    (hf : ∀ a t, between t → ∃ b u, (f a).runOn t = (.ok b, u) ∧ after u) :
    AllOrNothing after s (x >>= f) := by
  obtain ⟨e, herror⟩ | ⟨a, t, hok, ht⟩ := hx
  · exact .inl ⟨e, runOn_bind_of_error herror⟩
  · obtain ⟨b, u, hrun, hu⟩ := hf a t ht
    exact .inr ⟨b, u, (runOn_bind_of_ok hok).trans hrun, hu⟩

/-- The answer may be given in another form. -/
theorem bindPure (hx : AllOrNothing after s x) (g : α → β) :
    AllOrNothing after s (x >>= fun a => pure (g a)) :=
  hx.bind fun a t ht => ⟨g a, t, rfl, ht⟩

theorem unchanged (h : AllOrNothing after s x) {e : ε} {t : σ} (hrun : x.runOn s = (.error e, t)) :
    t = s := by
  obtain ⟨e', herror⟩ | ⟨a, t', hok, -⟩ := h
  · rw [herror] at hrun
    cases hrun
    rfl
  · rw [hok] at hrun
    cases hrun

end AllOrNothing
end Step

namespace RunState

variable {s : RunState}

/-- That a state has the buffer of another one, and the size of its largest body. -/
def SameBuffer (s t : RunState) : Prop :=
  t.maxContentLength = s.maxContentLength ∧ t.buffer = s.buffer

theorem allOrNothing_checkWritable {α : Type} {part : Part} {x : OnRun α}
    (h : x.AllOrNothing s.SameBuffer s) :
    (checkWritable part >>= fun _ => x).AllOrNothing s.SameBuffer s := by
  cases hfrozen : s.frozen with
  | true => exact .inl ⟨.partFrozen part, by simp [checkWritable, Step.runOn_bind, hfrozen]⟩
  | false =>
    have hwritable : (checkWritable part).runOn s = (.ok ⟨⟩, s) := by
      simp [checkWritable, Step.runOn_bind, hfrozen]
    rwa [Step.AllOrNothing, Step.runOn_bind_of_ok hwritable]

theorem allOrNothing_localize (name : Text) : (localize name).AllOrNothing s.SameBuffer s :=
  .getBind <| .liftBind fun _ => .returns rfl ⟨rfl, rfl⟩

theorem allOrNothing_freezeNames : freezeNames.AllOrNothing s.SameBuffer s :=
  .getBind <| .liftBind fun _ => .returns rfl ⟨rfl, rfl⟩

/-! ### Operations that make a buffer -/

/-- The size of the buffer that an operation makes, if it makes one. -/
def Operation.bufferSize? (s : RunState) : Operation → Option Int
  | .setMaxContentLength length => some length
  | .prepare => some (largestBody s.sessions)
  | _ => none

/-- What an operation has made of a state when it comes to make a buffer. -/
def Operation.beforeBuffer (s : RunState) : Operation → RunState
  | .setMaxContentLength length => { s with maxContentLength := length }
  | .prepare => s.unbuffered
  | _ => s

/-- An operation that makes no buffer does all or nothing, and leaves the buffer that is there. -/
theorem allOrNothing_perform {o : Operation} (ho : o.bufferSize? s = none) :
    (perform o).AllOrNothing s.SameBuffer s := by
  cases o with
  | localize name => exact (allOrNothing_localize _).bindPure _
  | localizeLower name => exact (allOrNothing_localize _).bindPure _
  | lookup name | contains name => exact .returns rfl ⟨rfl, rfl⟩
  | freezeNames => exact allOrNothing_freezeNames.bindPure _
  | addSession ssn =>
    refine Step.AllOrNothing.bindPure (allOrNothing_checkWritable ?_) _
    split
    · exact .returns rfl ⟨rfl, rfl⟩
    · exact .returns rfl ⟨rfl, rfl⟩
  | mergeRules rules =>
    refine Step.AllOrNothing.bindPure (allOrNothing_checkWritable ?_) _
    exact .getBind <| .liftBind fun _ => .returns rfl ⟨rfl, rfl⟩
  | addRule rule =>
    refine Step.AllOrNothing.bindPure (.getBind <| .liftBind fun _ => ?_) _
    exact .returns rfl ⟨rfl, rfl⟩
  | body size =>
    have hbody : (body size).AllOrNothing s.SameBuffer s := .getBind <| .lift ⟨rfl, rfl⟩ _
    exact hbody.bindPure _
  | freeze =>
    refine Step.AllOrNothing.bindPure (.getBind ?_) _
    split
    · exact .throw _
    · refine Step.AllOrNothing.bind allOrNothing_freezeNames fun _ t ht => ?_
      exact ⟨⟨⟩, _, rfl, ht⟩
  | setMaxContentLength length | prepare => cases ho

/-- An operation that makes a buffer has done the rest by then. -/
theorem runOn_perform_of_bufferSize? {run : RunState} (hrun : run.frozen = false) {o : Operation}
    {size : Int} (ho : o.bufferSize? run = some size) :
    (∀ f, Body.filled size = .error f →
      (perform o).runOn run = (.error f, o.beforeBuffer run)) ∧
    ∀ buffer, Body.filled size = .ok buffer →
      ∃ a, (perform o).runOn run = (.ok a, { o.beforeBuffer run with buffer }) := by
  cases o with
  | setMaxContentLength length =>
    obtain rfl : length = size := Option.some.inj ho
    have hset := runOn_setMaxContentLength hrun length
    refine ⟨fun f hf => ?_, fun buffer hbuffer => ⟨.done, ?_⟩⟩
    · rw [hf] at hset
      exact Step.runOn_bind_of_error hset
    · rw [hbuffer] at hset
      exact Step.runOn_bind_of_ok hset
  | prepare =>
    obtain rfl : largestBody run.sessions = size := Option.some.inj ho
    have hprepare := runOn_prepare hrun
    rw [maxContentLength_batchInfo] at hprepare
    refine ⟨fun f hf => ?_, fun buffer hbuffer => ⟨.batch (batchInfo run.sessions), ?_⟩⟩
    · rw [hf] at hprepare
      exact Step.runOn_bind_of_error hprepare
    · rw [hbuffer] at hprepare
      exact Step.runOn_bind_of_ok hprepare
  | _ => cases ho

/-- What an operation leaves of a state that is not frozen when it stops at a fault. -/
theorem refused_eq_beforeBuffer {run after : RunState} (hrun : run.frozen = false) {o : Operation}
    {f : Fault} (h : (perform o).runOn run = (.error f, after)) : after = o.beforeBuffer run := by
  cases ho : o.bufferSize? run with
  | none =>
    rw [(allOrNothing_perform ho).unchanged h]
    cases o with
    | setMaxContentLength length | prepare => cases ho
    | _ => rfl
  | some size =>
    obtain ⟨herror, hok⟩ := runOn_perform_of_bufferSize? hrun ho
    cases hsize : Body.filled size with
    | error f' =>
      rw [herror f' hsize] at h
      cases h
      rfl
    | ok buffer =>
      obtain ⟨a, ha⟩ := hok buffer hsize
      rw [ha] at h
      cases h

/-- In front of the buffer the size is that of the new one, whether that can be made or not. -/
theorem beforeBuffer_of_bufferSize? {o : Operation} {size : Int}
    (ho : o.bufferSize? s = some size) : (o.beforeBuffer s).maxContentLength = size ∧
      (o.beforeBuffer s).buffer = s.buffer := by
  cases o with
  | setMaxContentLength length => exact ⟨Option.some.inj ho, rfl⟩
  | prepare => exact ⟨(maxContentLength_batchInfo _).trans (Option.some.inj ho), rfl⟩
  | _ => cases ho

/-- It is as before exactly if there was nothing to do before the buffer. -/
theorem beforeBuffer_eq_self_iff {o : Operation} :
    o.beforeBuffer s = s ↔ ∀ size ∈ o.bufferSize? s,
      s.maxContentLength = size ∧ (o.isPrepare = true → Normal s.sessions) := by
  cases s
  cases o with
  | setMaxContentLength length =>
    simp [Operation.beforeBuffer, Operation.bufferSize?, Operation.isPrepare, eq_comm]
  | prepare =>
    simp only [Operation.beforeBuffer, Operation.bufferSize?, Operation.isPrepare, unbuffered,
      maxContentLength_batchInfo, mk.injEq, normalized_eq_self_iff, and_self, and_true, true_and,
      Option.mem_def, Option.some.injEq, forall_const, forall_eq']
    exact and_comm.trans (and_congr_left' eq_comm)
  | _ => simp [Operation.beforeBuffer, Operation.bufferSize?]

/-! ### The buffer -/

/-- That a state holds a buffer that was made, and the one for its largest body if that can be
made. -/
structure Backed (s : RunState) : Prop where
  made : ∃ size, Body.filled size = .ok s.buffer
  sized : ∀ buffer, Body.filled s.maxContentLength = .ok buffer → s.buffer = buffer

theorem Backed.of_sameBuffer {t : RunState} (h : s.Backed) (hst : s.SameBuffer t) : t.Backed := by
  obtain ⟨hsize, hbuffer⟩ := hst
  exact ⟨hbuffer ▸ h.made, hbuffer ▸ hsize ▸ h.sized⟩

theorem backed_empty : empty.Backed := by
  refine ⟨⟨0, rfl⟩, fun buffer h => ?_⟩
  cases h
  rfl

/-- A buffer for some sessions can be made if each of their bodies can be. -/
theorem inRange_largestBody_iff {ssns : List Session} :
    Body.InRange (largestBody ssns) ↔ ∀ size ∈ bodySizes ssns, size < Body.sizeLimit := by
  have hzero : 0 ≤ largestBody ssns := by
    rw [largestBody_eq_max]
    exact Int.le_max_left _ _
  have hlow : -Body.sizeLimit ≤ largestBody ssns := by
    unfold Body.sizeLimit
    omega
  have hlimit : 0 < Body.sizeLimit := by decide
  rw [Body.InRange, and_iff_right hlow, largestBody_lt_iff hlimit]

/-- An operation that makes a buffer on a frozen state is refused before it does so. -/
theorem sameBuffer_of_frozen (hfrozen : s.frozen = true) {o : Operation} {size : Int}
    (ho : o.bufferSize? s = some size) : s.SameBuffer ((perform o).runOn s).2 := by
  cases o with
  | setMaxContentLength length =>
    simp [perform, setMaxContentLength, checkWritable, Step.runOn_bind, hfrozen, SameBuffer]
  | prepare =>
    simp [perform, prepare, setMaxContentLength, checkWritable, Step.runOn_bind, hfrozen,
      SameBuffer]
  | _ => cases ho

/-- Every operation leaves a state with a buffer for its largest body, if one can be made. -/
theorem Backed.perform (h : s.Backed) (o : Operation) : ((perform o).runOn s).2.Backed := by
  cases ho : o.bufferSize? s with
  | none =>
    obtain ⟨e, herror⟩ | ⟨a, t, hok, ht⟩ := allOrNothing_perform ho
    · rwa [herror]
    · rw [hok]
      exact h.of_sameBuffer ht
  | some size =>
    cases hfrozen : s.frozen with
    | true => exact h.of_sameBuffer (sameBuffer_of_frozen hfrozen ho)
    | false =>
      obtain ⟨herror, hok⟩ := runOn_perform_of_bufferSize? hfrozen ho
      have hsize := beforeBuffer_of_bufferSize? ho
      cases hfilled : Body.filled size with
      | error f =>
        rw [herror f hfilled]
        refine ⟨hsize.2 ▸ h.made, fun buffer hbuffer => ?_⟩
        rw [hsize.1, hfilled] at hbuffer
        cases hbuffer
      | ok buffer =>
        obtain ⟨a, ha⟩ := hok buffer hfilled
        rw [ha]
        refine ⟨⟨size, hfilled⟩, fun buffer' hbuffer => ?_⟩
        have hsame : Body.filled size = .ok buffer' := hsize.1 ▸ hbuffer
        exact Except.ok.inj (hfilled.symm.trans hsame)

theorem backed_performAll (h : s.Backed) (ops : List Operation) : (s.performAll ops).Backed := by
  induction ops generalizing s with
  | nil => exact h
  | cons o ops ih => exact ih (h.perform o)

/-- The buffer has the length of the largest body unless no buffer of that length can be made. -/
theorem Backed.length_eq_iff (h : s.Backed) :
    (s.buffer.length : Int) = max 0 s.maxContentLength ↔
      s.maxContentLength < Body.sizeLimit ∧
        (-Body.sizeLimit ≤ s.maxContentLength ∨ s.buffer = []) := by
  obtain ⟨⟨size, hmade⟩, hsized⟩ := h
  by_cases hrange : Body.InRange s.maxContentLength
  · have hlength : s.buffer.length = s.maxContentLength.toNat := by
      rw [hsized _ (Body.filled_of_inRange hrange), List.length_replicate]
    refine iff_of_true ?_ ⟨hrange.2, .inl hrange.1⟩
    omega
  · -- The buffer is from before, and shorter than a largest body beyond the limit.
    have hlength := Body.length_filled hmade
    have hsize := Body.inRange_of_filled hmade
    unfold Body.InRange Body.sizeLimit at *
    rw [← List.length_eq_zero_iff]
    omega

/-! ### What is left -/

/-- **What a refused operation leaves.** Take the state after any operations, and let it not be
frozen.  An operation that makes a buffer stops exactly if no buffer of its size can be made.  An
operation that stops leaves what it has made of the state in front of the buffer, which is the state
as it was if it makes no buffer; else it is so exactly if the size was set already and, for the
preparation of a batch, the sessions were in order from zero on.  Frozen or not, the buffer is as
long as the largest body, unless no buffer of that length can be made. -/
theorem refused_leaves (ops : List Operation) :
    ((empty.performAll ops).frozen = false → ∀ o : Operation,
      (∀ size ∈ o.bufferSize? (empty.performAll ops),
        ((∃ f after, (perform o).runOn (empty.performAll ops) = (.error f, after)) ↔
          ¬ Body.InRange size)) ∧
      ∀ f after, (perform o).runOn (empty.performAll ops) = (.error f, after) →
        after = o.beforeBuffer (empty.performAll ops) ∧
        (after = empty.performAll ops ↔ ∀ size ∈ o.bufferSize? (empty.performAll ops),
          (empty.performAll ops).maxContentLength = size ∧
            (o.isPrepare = true → Normal (empty.performAll ops).sessions))) ∧
    (((empty.performAll ops).buffer.length : Int) = max 0 (empty.performAll ops).maxContentLength ↔
      (empty.performAll ops).maxContentLength < Body.sizeLimit ∧
        (-Body.sizeLimit ≤ (empty.performAll ops).maxContentLength ∨
          (empty.performAll ops).buffer = [])) := by
  refine ⟨fun hrun o => ⟨fun size ho => ?_, fun f after h => ?_⟩, ?_⟩
  · obtain ⟨herror, hok⟩ := runOn_perform_of_bufferSize? hrun ho
    by_cases hrange : Body.InRange size
    · obtain ⟨a, ha⟩ := hok _ (Body.filled_of_inRange hrange)
      refine iff_of_false ?_ (not_not_intro hrange)
      rintro ⟨f, after, h⟩
      rw [ha] at h
      cases h
    · exact iff_of_true ⟨_, _, herror _ (Body.filled_of_not_inRange hrange)⟩ hrange
  · obtain rfl := refused_eq_beforeBuffer hrun h
    exact ⟨rfl, beforeBuffer_eq_self_iff⟩
  · exact (backed_performAll backed_empty ops).length_eq_iff

/-- Operations that add a session which starts late and has a body of some size, freeze the names,
and set the size of the largest body. -/
def lateWith (size : Int) : List Operation :=
  [.addSession
    { Session.blank "f.yaml" 1 with
      start := 1000
      transactions := [{ Transaction.blank false with
        request := { Request.blank with contentSize := size } }] },
    .freezeNames,
    .setMaxContentLength 5]

/-- A new name is refused by frozen names, and nothing changes. -/
theorem refused_leaves_newName :
    (empty.performAll (lateWith 7)).frozen = false ∧
      ∃ f after, (perform (.localize "host")).runOn (empty.performAll (lateWith 7)) =
          (.error f, after) ∧
        after = empty.performAll (lateWith 7) := by
  have hrun : (perform (.localize "host")).runOn (empty.performAll (lateWith 7)) =
      (.error (.newName "host"), empty.performAll (lateWith 7)) := rfl
  exact ⟨rfl, _, _, hrun, (((refused_leaves (lateWith 7)).1 rfl _).2 _ _ hrun).1⟩

/-- A batch cannot be prepared for a body beyond the limit; by then the session has been moved to
zero, and the size has been set without a buffer of that size. -/
theorem not_refused_unchanged :
    ∃ after, (perform .prepare).runOn (empty.performAll (lateWith Body.sizeLimit)) =
        (.error .bodyTooLarge, after) ∧
      (empty.performAll (lateWith Body.sizeLimit)).frozen = false ∧
      (empty.performAll (lateWith Body.sizeLimit)).starts = [1000] ∧ after.starts = [0] ∧
      (empty.performAll (lateWith Body.sizeLimit)).maxContentLength = 5 ∧
      ¬ (after.buffer.length : Int) = max 0 after.maxContentLength := by
  refine ⟨(empty.performAll (lateWith Body.sizeLimit)).unbuffered, ?_, rfl, rfl, ?_, rfl, ?_⟩
  · exact (runOn_perform_of_bufferSize? rfl rfl).1 _ rfl
  · decide +kernel
  · decide +kernel

end RunState
end TrafficReplay
