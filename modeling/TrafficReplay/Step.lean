/-!
# Steps on a state

A step changes a state and gives a result or stops at a fault. What it changed before a fault
stays changed, as when a record is filled in field by field.
-/

namespace TrafficReplay

/-- Computations that change a state and may stop at a fault. -/
abbrev Step (σ ε : Type) := ExceptT ε (StateM σ)

namespace Step

variable {σ τ ε α : Type}

/-- The result of a step on a state, and the state after it. -/
def runOn (x : Step σ ε α) (s : σ) : Except ε α × σ := x.run.run s

/-- A step that is given by its results. -/
def ofRun (f : σ → Except ε α × σ) : Step σ ε α := f

/-- A step on a part of a state. -/
def onPart (part : σ → τ) (replace : σ → τ → σ) (x : Step τ ε α) : Step σ ε α :=
  ofRun fun s =>
    let (r, t) := x.runOn (part s)
    (r, replace s t)

/-- A change of the state as a whole that is made only if it meets no fault. -/
def update (f : σ → Except ε (σ × α)) : Step σ ε α :=
  ofRun fun s =>
    match f s with
    | .ok (s, a) => (.ok a, s)
    | .error e => (.error e, s)

@[simp] theorem runOn_pure (a : α) (s : σ) : (pure a : Step σ ε α).runOn s = (.ok a, s) := rfl

@[simp] theorem runOn_throw (e : ε) (s : σ) :
    (throw e : Step σ ε α).runOn s = (.error e, s) := rfl

@[simp] theorem runOn_ofRun (f : σ → Except ε α × σ) (s : σ) : (ofRun f).runOn s = f s := rfl

@[simp] theorem runOn_get (s : σ) : (get : Step σ ε σ).runOn s = (.ok s, s) := rfl

@[simp] theorem runOn_set (s t : σ) : (set t : Step σ ε PUnit).runOn s = (.ok ⟨⟩, t) := rfl

@[simp] theorem runOn_modify (f : σ → σ) (s : σ) :
    (modify f : Step σ ε PUnit).runOn s = (.ok ⟨⟩, f s) := rfl

/-- A computation without a state leaves the state as it is. -/
@[simp] theorem runOn_liftM (x : Except ε α) (s : σ) :
    (liftM x : Step σ ε α).runOn s = (x, s) := rfl

@[simp] theorem runOn_onPart (part : σ → τ) (replace : σ → τ → σ) (x : Step τ ε α) (s : σ) :
    (onPart part replace x).runOn s = ((x.runOn (part s)).1, replace s (x.runOn (part s)).2) :=
  rfl

theorem runOn_bind {β : Type} (x : Step σ ε α) (f : α → Step σ ε β) (s : σ) :
    (x >>= f).runOn s =
      match x.runOn s with
      | (.ok a, s) => (f a).runOn s
      | (.error e, s) => (.error e, s) := by
  have hbind : (x >>= f).runOn s = ExceptT.bindCont f (x.runOn s).1 (x.runOn s).2 := rfl
  rw [hbind]
  rcases x.runOn s with ⟨_ | _, _⟩ <;> rfl

@[simp] theorem runOn_map {β : Type} (f : α → β) (x : Step σ ε α) (s : σ) :
    (f <$> x).runOn s = ((x.runOn s).1.map f, (x.runOn s).2) := by
  rw [map_eq_pure_bind, runOn_bind]
  rcases x.runOn s with ⟨_ | _, _⟩ <;> rfl

/-- After a step with a result, the rest goes on from the state that the step left. -/
theorem runOn_bind_of_ok {β : Type} {x : Step σ ε α} {f : α → Step σ ε β} {s t : σ} {a : α}
    (h : x.runOn s = (.ok a, t)) : (x >>= f).runOn s = (f a).runOn t := by
  rw [runOn_bind, h]

/-- After a fault, nothing goes on. -/
theorem runOn_bind_of_error {β : Type} {x : Step σ ε α} {f : α → Step σ ε β} {s t : σ} {e : ε}
    (h : x.runOn s = (.error e, t)) : (x >>= f).runOn s = (.error e, t) := by
  rw [runOn_bind, h]

end Step

end TrafficReplay
