import TrafficReplay.Proofs.Loading.Reading

/-!
# Readings that correspond

Two readings correspond if they bring the same names, and stop at the same fault or have results
between which a relation holds.  Readings that are put together from corresponding ones correspond.

* `Reading.Related`, with one lemma for each way of putting readings together (`pure`, `refl`,
  `bind`, `learnBind`), and `mono` for a weaker relation.
-/

namespace TrafficReplay

namespace Reading

variable {α β γ δ : Type}

/-- Readings that bring the same names, and that stop at the same fault or have related results. -/
inductive Related (P : α → β → Prop) : Reading α → Reading β → Prop
  | ok {names : List Text} {a : α} {b : β} (h : P a b) :
      Related P ⟨names, .ok a⟩ ⟨names, .ok b⟩
  | error {names : List Text} {e : Fault} : Related P ⟨names, .error e⟩ ⟨names, .error e⟩

namespace Related

variable {P : α → β → Prop} {Q : γ → δ → Prop}

theorem pure {a : α} {b : β} (h : P a b) : Related P (pure a) (pure b) := .ok h

theorem refl {P : α → α → Prop} (x : Reading α) (h : ∀ a, x.result = .ok a → P a a) :
    Related P x x := by
  obtain ⟨names, e | a⟩ := x
  · exact .error
  · exact .ok (h a rfl)

theorem mono {P' : α → β → Prop} {x : Reading α} {y : Reading β} (h : Related P x y)
    (hP : ∀ a b, P a b → P' a b) : Related P' x y := by
  cases h with
  | ok h => exact .ok (hP _ _ h)
  | error => exact .error

theorem bind {x : Reading α} {y : Reading β} {f : α → Reading γ} {g : β → Reading δ}
    (hx : Related P x y) (hf : ∀ a b, P a b → Related Q (f a) (g b)) :
    Related Q (x >>= f) (y >>= g) := by
  cases hx with
  | error => exact .error
  | @ok names a b h =>
    rw [bind_of_ok rfl, bind_of_ok rfl]
    have hrest := hf a b h
    generalize f a = u at hrest ⊢
    generalize g b = v at hrest ⊢
    cases hrest with
    | ok h' => exact .ok h'
    | error => exact .error

theorem learnBind {names : List Text} {x : Reading γ} {y : Reading δ} (h : Related Q x y) :
    Related Q (do learn names; x) (do learn names; y) :=
  (refl (learn names) fun _ _ => rfl).bind fun _ _ _ => h

end Related

end Reading

end TrafficReplay
