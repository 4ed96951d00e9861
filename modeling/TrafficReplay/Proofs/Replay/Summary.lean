import TrafficReplay.Proofs.Replay.Rounding
import TrafficReplay.Replay.Stats

/-!
# Totals that can be told

The rates of a replay are floating point numbers.  There is one next to the totals unless these are
`2 ^ 1023` or more, so a replay with fewer transactions can be summed up and saved.

* `Binary64.ofInt_ok`, `Binary64.quotient_ok`: integers and quotients with a number next to them;
* `ReplayStats.summary_ok`, `ReplayStats.rounded_ok`.
-/

namespace TrafficReplay

namespace Binary64

theorem ofInt_ok {n : Int} (h : n.natAbs < 2 ^ 1023) : ∃ x, ofInt n = .ok x :=
  ofInt_ok_iff.2 (Nat.lt_of_lt_of_le h (pow_le_integerLimit (by decide)))

theorem quotient_ok {a b : Int} (ha : a.natAbs < 2 ^ 1023) (hb : b ≠ 0) :
    ∃ x, quotient a b = .ok x := by
  unfold quotient quotient?
  rw [if_neg hb]
  by_cases hzero : a = 0
  · rw [if_pos hzero]
    exact ⟨_, rfl⟩
  · have hden : 0 < b.natAbs := Int.natAbs_pos.2 hb
    have hle : (a.natAbs : ℚ) / b.natAbs ≤ a.natAbs :=
      div_le_self (by positivity) (by exact_mod_cast hden)
    obtain ⟨hfinite, -⟩ :=
      @atMost_ofRatio _ _ ((a < 0) != (b < 0)) _ hden hle (by exact_mod_cast ha)
    obtain ⟨negative, m, e, hx⟩ := exists_eq_finite hfinite
    rw [if_neg hzero, hx]
    exact ⟨_, rfl⟩

/-- A number that is not at or below zero is not zero. -/
theorem isZero_eq_false {x : Binary64} (h : x.le (zero false) = false) : x.isZero = false := by
  cases x with
  | nan | infinity => rfl
  | finite s m e =>
    refine Bool.eq_false_iff.2 fun hzero => ?_
    obtain rfl : m = 0 := of_decide_eq_true hzero
    have hle : (finite s 0 e).le (zero false) = true := by
      cases s <;> simp [le, compare?, zero, alignedTo]
    rw [h] at hle
    cases hle

theorem div_ok {x y : Binary64} (hy : y.isZero = false) : ∃ z, x.div y = .ok z := by
  unfold div div?
  rw [hy]
  exact ⟨_, rfl⟩

end Binary64

namespace ReplayStats

variable {s : ReplayStats}

theorem reuse_ok (h : s.transactions.natAbs < 2 ^ 1023) : ∃ x, s.reuse = .ok x := by
  unfold reuse
  by_cases hs : s.sessions = 0
  · rw [if_pos hs]
    exact ⟨_, rfl⟩
  · rw [if_neg hs]
    exact Binary64.quotient_ok h hs

theorem throughput_ok (h : s.transactions.natAbs < 2 ^ 1023) : ∃ x, s.throughput = .ok x := by
  unfold throughput
  cases hle : s.elapsed.le (.zero false) with
  | true => exact ⟨_, rfl⟩
  | false =>
    obtain ⟨n, hn⟩ := Binary64.ofInt_ok h
    obtain ⟨x, hx⟩ := Binary64.div_ok (x := n) (Binary64.isZero_eq_false hle)
    rw [hn]
    exact ⟨x, hx⟩

theorem summary_ok (h : s.transactions.natAbs < 2 ^ 1023) : ∃ text, s.summary = .ok text := by
  obtain ⟨x, hx⟩ := reuse_ok h
  obtain ⟨y, hy⟩ := throughput_ok h
  unfold summary
  rw [hx, hy]
  exact ⟨_, rfl⟩

theorem rounded_ok (h : s.transactions.natAbs < 2 ^ 1023) : ∃ r, s.rounded = .ok r := by
  obtain ⟨x, hx⟩ := reuse_ok h
  obtain ⟨y, hy⟩ := throughput_ok h
  unfold rounded
  rw [hx, hy]
  exact ⟨_, rfl⟩

end ReplayStats

end TrafficReplay
