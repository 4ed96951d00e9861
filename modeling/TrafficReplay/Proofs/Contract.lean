import TrafficReplay.Step

/-!
# What steps change, and at which faults they stop

A contract says how a step may change the state and which faults may stop it, whatever the state it
starts from.  What follows from a contract holds after a fault just as it does after a result, so a
contract also says what is left when something is cut short.

* `Contract`, `Contract.leaving`: contracts;
* `Step.Meets`: a step that keeps to a contract, with one lemma for each way of putting steps
  together.
-/

namespace TrafficReplay

/-- How a step may change a state, and the faults that may stop it there.  Steps that do so one
after another do so as a whole. -/
structure Contract (σ ε : Type) where
  change : σ → σ → Prop
  fault : σ → ε → Prop
  refl : ∀ s, change s s
  trans : ∀ {s t u}, change s t → change t u → change s u
  fault_of_change : ∀ {s t e}, change s t → fault t e → fault s e

/-- The contract of a step that leaves a part of the state alone and stops only at faults that this
part allows for. -/
def Contract.leaving {σ ρ ε : Type} (part : σ → ρ) (fault : ρ → ε → Prop) : Contract σ ε where
  change s t := part t = part s
  fault s := fault (part s)
  refl _ := rfl
  trans hst htu := htu.trans hst
  fault_of_change hst he := hst ▸ he

/-- That a step keeps to a contract. -/
def Step.Meets {σ ε α : Type} (c : Contract σ ε) (x : Step σ ε α) : Prop :=
  ∀ s, c.change s (x.runOn s).2 ∧ ∀ e, (x.runOn s).1 = .error e → c.fault s e

namespace Step.Meets

variable {σ τ ε α β : Type} {c : Contract σ ε} {d : Contract τ ε} {x : Step σ ε α}
  {f : α → Step σ ε β}

protected theorem pure (a : α) : Meets c (pure a) := fun s => ⟨c.refl s, nofun⟩

protected theorem throw {e : ε} (he : ∀ s, c.fault s e) :
    Meets c (throw e : Step σ ε α) := by
  intro s
  refine ⟨c.refl s, fun e' h => ?_⟩
  cases h
  exact he s

/-- A step that is given by its results. -/
theorem ofRun {run : σ → Except ε α × σ} (hchange : ∀ s, c.change s (run s).2)
    (hfault : ∀ s e, (run s).1 = .error e → c.fault s e) : Meets c (Step.ofRun run) :=
  fun s => ⟨hchange s, hfault s⟩

protected theorem modify {g : σ → σ} (hg : ∀ s, c.change s (g s)) :
    Meets c (modify g : Step σ ε PUnit) :=
  fun s => ⟨hg s, nofun⟩

/-- A change of the state as a whole. -/
theorem update {g : σ → Except ε (σ × α)} (hok : ∀ s p, g s = .ok p → c.change s p.1)
    (herror : ∀ s e, g s = .error e → c.fault s e) : Meets c (Step.update g) := by
  intro s
  rw [Step.update, runOn_ofRun]
  cases hg : g s with
  | ok p => exact ⟨hok s p hg, nofun⟩
  | error e =>
    refine ⟨c.refl s, fun e' h => ?_⟩
    cases h
    exact herror s e hg

/-- A step and what comes after it keep to the contract together. -/
theorem bind (hx : Meets c x) (hf : ∀ a, Meets c (f a)) : Meets c (x >>= f) := by
  intro s
  obtain ⟨hchange, hfault⟩ := hx s
  rcases hrun : x.runOn s with ⟨_ | a, t⟩ <;> rw [hrun] at hchange hfault
  · rw [runOn_bind_of_error hrun]
    refine ⟨hchange, fun e h => hfault e ?_⟩
    cases h
    rfl
  · rw [runOn_bind_of_ok hrun]
    obtain ⟨hchange', hfault'⟩ := hf a t
    exact ⟨c.trans hchange hchange', fun e h => c.fault_of_change hchange (hfault' e h)⟩

/-- What comes after a look at the state keeps to the contract whatever was seen. -/
theorem look {f : σ → Step σ ε β} (hf : ∀ s, Meets c (f s)) : Meets c (get >>= f) :=
  bind (fun s => ⟨c.refl s, nofun⟩) hf

/-- What comes after a look at the state keeps to the contract on that state. -/
theorem getBind {f : σ → Step σ ε β}
    (hf : ∀ s, c.change s ((f s).runOn s).2 ∧ ∀ e, ((f s).runOn s).1 = .error e → c.fault s e) :
    Meets c (get >>= f) := by
  intro s
  rw [runOn_bind_of_ok (runOn_get s)]
  exact hf s

/-- What comes after a computation from the state keeps to the contract on that state. -/
theorem getLiftBind {g : σ → Except ε β} {f : σ → β → Step σ ε α}
    (hg : ∀ s e, g s = .error e → c.fault s e)
    (hf : ∀ s b, c.change s ((f s b).runOn s).2 ∧
      ∀ e, ((f s b).runOn s).1 = .error e → c.fault s e) :
    Meets c (do let s ← get; let b ← (liftM (g s) : Step σ ε β); f s b) := by
  refine getBind fun s => ?_
  rw [runOn_bind, runOn_liftM]
  cases h : g s with
  | ok b => exact hf s b
  | error e =>
    refine ⟨c.refl s, fun e' h' => ?_⟩
    cases h'
    exact hg s e h

/-- A step on a part of the state. -/
theorem onPart {part : σ → τ} {replace : σ → τ → σ} {x : Step τ ε α} (hx : Meets d x)
    (hchange : ∀ s t, d.change (part s) t → c.change s (replace s t))
    (hfault : ∀ s e, d.fault (part s) e → c.fault s e) :
    Meets c (Step.onPart part replace x) := by
  intro s
  obtain ⟨hpart, herror⟩ := hx (part s)
  rw [runOn_onPart]
  exact ⟨hchange s _ hpart, fun e h => hfault s e (herror e h)⟩

/-- A step that keeps to a contract keeps to one that allows for more. -/
theorem mono {d : Contract σ ε} (hx : Meets c x) (hchange : ∀ s t, c.change s t → d.change s t)
    (hfault : ∀ s e, c.fault s e → d.fault s e) : Meets d x :=
  fun s => ⟨hchange s _ (hx s).1, fun e h => hfault s e ((hx s).2 e h)⟩

end Step.Meets

end TrafficReplay
