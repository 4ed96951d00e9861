import Mathlib.Algebra.Order.Field.Power
import Mathlib.Algebra.Order.Field.Rat
import Mathlib.Tactic.FieldSimp
import Mathlib.Tactic.GCongr
import Mathlib.Tactic.Linarith
import Mathlib.Tactic.NormNum
import Mathlib.Tactic.Positivity
import Mathlib.Tactic.Ring
import TrafficReplay.Number.Binary64

/-!
# How far rounding goes

A number that is rounded is at most twice the exact one, and at least half of it from one on.  That
is all it takes to see that products and quotients of moderate numbers are finite.  For whole
numbers it is known exactly which of them have a finite number next to them.

* `Binary64.magnitude`, `Binary64.AtMost`: the absolute value of a number, and a bound for it;
* `Binary64.atMost_ofRatio`, `Binary64.le_magnitude_ofRatio`: how far rounding goes;
* `Binary64.atMost_mul`, `Binary64.atMost_div`: products and quotients;
* `Binary64.ofInt_ok_iff`: the integers that have a number next to them.
-/

namespace TrafficReplay
namespace Binary64

/-- Whether a number is finite. -/
def IsFinite : Binary64 → Prop
  | .finite .. => True
  | _ => False

/-- The absolute value of a finite number. -/
def magnitude : Binary64 → ℚ
  | .finite _ m e => m * 2 ^ e
  | _ => 0

/-- That a number is finite and not beyond a bound. -/
def AtMost (x : Binary64) (bound : ℚ) : Prop := x.IsFinite ∧ x.magnitude ≤ bound

/-- The middle between the greatest finite number and `2 ^ 1024`. -/
def integerLimit : Nat := (2 ^ 54 - 1) * 2 ^ 970

variable {num den k h : Nat} {negative : Bool} {x y : Binary64} {r s : ℚ}

/-! ### Division with rounding -/

theorem roundDiv_le (num den : Nat) : roundDiv num den ≤ num / den + 1 := by
  unfold roundDiv
  dsimp only
  repeat' split
  all_goals omega

theorem le_roundDiv (num den : Nat) : num / den ≤ roundDiv num den := by
  unfold roundDiv
  dsimp only
  repeat' split
  all_goals omega

/-- Rounding up takes at least half of the divisor. -/
theorem roundDiv_mul_le (num : Nat) (hden : 0 < den) : roundDiv num den * den ≤ 2 * num := by
  have hdiv := Nat.div_add_mod num den
  have hquotient : num / den ≤ num / den * den := Nat.le_mul_of_pos_right _ hden
  rw [Nat.mul_comm] at hdiv
  unfold roundDiv
  dsimp only
  split
  · omega
  · rename_i hhalf
    have hup : (num / den + 1) * den ≤ 2 * num := by
      rw [Nat.succ_mul]
      omega
    split
    · exact hup
    · refine Nat.le_trans (Nat.mul_le_mul_right den ?_) hup
      omega

theorem le_roundDiv_mul (hden : 0 < den) (hle : den ≤ num) :
    num ≤ 2 * (roundDiv num den * den) := by
  have hone : 1 ≤ num / den := (Nat.one_le_div_iff hden).2 hle
  have hlt : num < (num / den + 1) * den := (Nat.div_lt_iff_lt_mul hden).1 (Nat.lt_succ_self _)
  have hmul : (num / den + 1) * den ≤ 2 * roundDiv num den * den := by
    refine Nat.mul_le_mul_right den ?_
    have := le_roundDiv num den
    omega
  rw [← Nat.mul_assoc]
  exact Nat.le_of_lt (Nat.lt_of_lt_of_le hlt hmul)

/-- A quotient is rounded up from an odd number from the middle on. -/
theorem lt_roundDiv_iff (hh : 0 < h) (hk : k % 2 = 1) :
    k < roundDiv num (2 * h) ↔ (2 * k + 1) * h ≤ num := by
  have hdiv := Nat.div_add_mod num (2 * h)
  have hmod := Nat.mod_lt num (Nat.mul_pos Nat.two_pos hh)
  have hodd : (2 * k + 1) * h = 2 * h * k + h := by ring
  rw [hodd]
  rcases Nat.lt_trichotomy (num / (2 * h)) k with hlt | rfl | hgt
  · have hmul : 2 * h * (num / (2 * h) + 1) ≤ 2 * h * k := Nat.mul_le_mul_left _ hlt
    have hround := roundDiv_le num (2 * h)
    rw [Nat.mul_succ] at hmul
    omega
  · unfold roundDiv
    dsimp only
    repeat' split
    all_goals omega
  · have hmul : 2 * h * (k + 1) ≤ 2 * h * (num / (2 * h)) := Nat.mul_le_mul_left _ hgt
    have hround := le_roundDiv num (2 * h)
    rw [Nat.mul_succ] at hmul
    omega

/-! ### The binade of a ratio -/

theorem cast_twoTo (n : Nat) : (twoTo n : ℚ) = 2 ^ n := by
  simp [twoTo]

/-- A scaled ratio is the ratio times a power of two. -/
theorem scale_spec (num : Nat) (hden : 0 < den) (e : Int) :
    0 < (scale num den e).2 ∧
      ((scale num den e).1 : ℚ) / (scale num den e).2 = num / den * 2 ^ e := by
  unfold scale
  split
  · rename_i he
    refine ⟨hden, ?_⟩
    obtain ⟨k, rfl⟩ := Int.eq_ofNat_of_zero_le he
    push_cast [cast_twoTo]
    simp
    ring
  · rename_i he
    obtain ⟨k, rfl⟩ : ∃ k : Nat, e = -k := ⟨(-e).toNat, by omega⟩
    refine ⟨Nat.mul_pos hden (Nat.pow_pos (by decide)), ?_⟩
    push_cast [cast_twoTo]
    simp
    field_simp

/-- The binade of a ratio is at or below it. -/
theorem zpow_binade_le (hnum : 0 < num) (hden : 0 < den) :
    (2 : ℚ) ^ binade num den ≤ num / den := by
  have hden' : (0 : ℚ) < den := by exact_mod_cast hden
  unfold binade
  generalize hl : (num.log2 : Int) - den.log2 = l
  obtain ⟨hpos, hscale⟩ := scale_spec num hden (-l)
  dsimp only
  split
  · rename_i hle
    have hone : (1 : ℚ) ≤ num / den * 2 ^ (-l) := by
      rw [← hscale, le_div_iff₀ (by exact_mod_cast hpos), one_mul]
      exact_mod_cast hle
    rw [zpow_neg, ← div_eq_mul_inv, le_div_iff₀ (by positivity), one_mul] at hone
    exact hone
  · -- The numerator is at least its binade, and the denominator less than twice its own.
    have hlow : ((2 ^ num.log2 : Nat) : ℚ) ≤ num := by
      exact_mod_cast Nat.log2_self_le (Nat.pos_iff_ne_zero.1 hnum)
    have hhigh : (den : ℚ) ≤ ((2 ^ (den.log2 + 1) : Nat) : ℚ) := by
      exact_mod_cast Nat.le_of_lt Nat.lt_log2_self
    rw [le_div_iff₀ hden']
    refine le_trans (mul_le_mul_of_nonneg_left hhigh (by positivity)) ?_
    refine le_trans (le_of_eq ?_) hlow
    push_cast
    rw [← zpow_natCast, ← zpow_natCast, ← zpow_add₀ (by norm_num), ← hl]
    congr 1
    push_cast
    omega

theorem binade_one (num : Nat) (hnum : num ≠ 0) : binade num 1 = num.log2 := by
  unfold binade
  have hone : Nat.log2 1 = 0 := by decide
  rw [hone]
  dsimp only
  have hle := Nat.log2_self_le hnum
  rw [if_pos]
  · simp
  · unfold scale
    split <;> simp [twoTo] <;> omega

/-! ### Rounding a ratio -/

/-- The exponent of the last place to which a ratio is rounded. -/
def lastPlace (num den : Nat) : Int := max minExponent (binade num den - 52)

/-- A ratio in units of the last place, rounded. -/
def rounded (num den : Nat) : Nat :=
  roundDiv (scale num den (-lastPlace num den)).1 (scale num den (-lastPlace num den)).2

/-- What is rounded up to a power of two has its last place one further up. -/
theorem ofRatio_eq (hnum : num ≠ 0) :
    ofRatio negative num den =
      if rounded num den = twoTo 53 then
        if maxExponent < lastPlace num den + 1 then .infinity negative
        else .finite negative (twoTo 52) (lastPlace num den + 1)
      else
        if maxExponent < lastPlace num den then .infinity negative
        else .finite negative (rounded num den) (lastPlace num den) := by
  unfold ofRatio
  rw [if_neg hnum]
  exact apply_ite
    (fun p : Nat × Int =>
      if maxExponent < p.2 then infinity negative else finite negative p.1 p.2)
    (rounded num den = twoTo 53) (twoTo 52, lastPlace num den + 1)
    (rounded num den, lastPlace num den)

/-- A ratio is rounded to a finite number unless its last place is too far up. -/
theorem isFinite_ofRatio_iff (hnum : num ≠ 0) :
    (ofRatio negative num den).IsFinite ↔ lastPlace num den < maxExponent ∨
      lastPlace num den = maxExponent ∧ rounded num den ≠ twoTo 53 := by
  rw [ofRatio_eq hnum]
  split <;> split <;> simp only [IsFinite, true_iff, false_iff] <;> omega

/-- The absolute value of a rounded ratio, in the unit to which it was rounded. -/
theorem magnitude_ofRatio (hnum : num ≠ 0) (hfinite : (ofRatio negative num den).IsFinite) :
    (ofRatio negative num den).magnitude = rounded num den * 2 ^ lastPlace num den := by
  rw [ofRatio_eq hnum] at hfinite ⊢
  split at hfinite <;> rename_i hcarry
  · split at hfinite
    · exact hfinite.elim
    · rename_i hsmall
      rw [if_pos hcarry, if_neg hsmall, hcarry, magnitude, zpow_add_one₀ (by norm_num), cast_twoTo,
        cast_twoTo]
      ring
  · split at hfinite
    · exact hfinite.elim
    · rename_i hsmall
      rw [if_neg hcarry, if_neg hsmall]
      rfl

theorem magnitude_zero (negative : Bool) : (zero negative).magnitude = 0 := by
  simp [zero, magnitude]

theorem magnitude_ofRatio_le (hden : 0 < den) (hfinite : (ofRatio negative num den).IsFinite) :
    (ofRatio negative num den).magnitude ≤ 2 * (num / den) := by
  by_cases hnum : num = 0
  · subst hnum
    rw [ofRatio, if_pos rfl, magnitude_zero]
    simp
  · obtain ⟨hpos, hscale⟩ := scale_spec num hden (-lastPlace num den)
    have hround : (rounded num den : ℚ) ≤ 2 * (num / den * 2 ^ (-lastPlace num den)) := by
      rw [← hscale, ← mul_div_assoc, le_div_iff₀ (by exact_mod_cast hpos)]
      exact_mod_cast roundDiv_mul_le _ hpos
    rw [magnitude_ofRatio hnum hfinite]
    calc (rounded num den : ℚ) * 2 ^ lastPlace num den
        ≤ 2 * (num / den * 2 ^ (-lastPlace num den)) * 2 ^ lastPlace num den := by gcongr
      _ = 2 * (num / den) := by
          rw [zpow_neg]
          field_simp

/-- From one on, rounding takes away at most half. -/
theorem le_magnitude_ofRatio (hden : 0 < den) (hle : den ≤ num)
    (hfinite : (ofRatio negative num den).IsFinite) :
    (num / den : ℚ) ≤ 2 * (ofRatio negative num den).magnitude := by
  have hnum : 0 < num := Nat.lt_of_lt_of_le hden hle
  obtain ⟨hpos, hscale⟩ := scale_spec num hden (-lastPlace num den)
  -- The last place is not above the ratio, so that the ratio in its units is at least one.
  have hplace : (2 : ℚ) ^ lastPlace num den ≤ num / den := by
    rcases le_total minExponent (binade num den - 52) with h | h
    · rw [lastPlace, max_eq_right h]
      exact le_trans (zpow_le_zpow_right₀ (by norm_num) (by omega)) (zpow_binade_le hnum hden)
    · rw [lastPlace, max_eq_left h]
      refine le_trans (zpow_le_one_of_nonpos₀ (by norm_num) (by decide)) ?_
      rw [le_div_iff₀ (by exact_mod_cast hden), one_mul]
      exact_mod_cast hle
  have hone : (scale num den (-lastPlace num den)).2 ≤ (scale num den (-lastPlace num den)).1 := by
    have hunits : (1 : ℚ) ≤ num / den * 2 ^ (-lastPlace num den) := by
      rw [zpow_neg, ← div_eq_mul_inv, le_div_iff₀ (by positivity), one_mul]
      exact hplace
    rw [← hscale, le_div_iff₀ (by exact_mod_cast hpos), one_mul] at hunits
    exact_mod_cast hunits
  have hround : (num / den * 2 ^ (-lastPlace num den) : ℚ) ≤ 2 * rounded num den := by
    rw [← hscale, div_le_iff₀ (by exact_mod_cast hpos), mul_assoc]
    exact_mod_cast le_roundDiv_mul hpos hone
  rw [magnitude_ofRatio (Nat.pos_iff_ne_zero.1 hnum) hfinite]
  calc (num / den : ℚ)
      = num / den * 2 ^ (-lastPlace num den) * 2 ^ lastPlace num den := by
        rw [zpow_neg]
        field_simp
    _ ≤ 2 * rounded num den * 2 ^ lastPlace num den := by gcongr
    _ = 2 * (rounded num den * 2 ^ lastPlace num den) := mul_assoc _ _ _

/-- A ratio below `2 ^ 1023` is rounded to a finite number, at most twice as large. -/
theorem atMost_ofRatio (hden : 0 < den) (hle : (num / den : ℚ) ≤ r) (hr : r < 2 ^ 1023) :
    (ofRatio negative num den).AtMost (2 * r) := by
  have hfinite : (ofRatio negative num den).IsFinite := by
    rcases Nat.eq_zero_or_pos num with rfl | hnum
    · rw [ofRatio, if_pos rfl]
      trivial
    · have hlt : (2 : ℚ) ^ binade num den < 2 ^ (1023 : Int) := by
        refine lt_of_le_of_lt (le_trans (zpow_binade_le hnum hden) hle) ?_
        exact_mod_cast hr
      rw [zpow_lt_zpow_iff_right₀ (by norm_num)] at hlt
      refine (isFinite_ofRatio_iff (Nat.pos_iff_ne_zero.1 hnum)).2 (.inl ?_)
      unfold lastPlace minExponent maxExponent
      omega
  exact ⟨hfinite, le_trans (magnitude_ofRatio_le hden hfinite) (by linarith)⟩

/-! ### Arithmetic -/

theorem exists_eq_finite (h : x.IsFinite) : ∃ negative m e, x = .finite negative m e := by
  cases x with
  | finite negative m e => exact ⟨negative, m, e, rfl⟩
  | nan | infinity => exact h.elim

theorem magnitude_nonneg (x : Binary64) : 0 ≤ x.magnitude := by
  cases x with
  | finite negative m e =>
    unfold magnitude
    positivity
  | nan | infinity => exact le_refl _

theorem isZero_eq_false_of_magnitude (h : 0 < x.magnitude) : x.isZero = false := by
  cases x with
  | finite negative m e =>
    refine decide_eq_false fun hzero => ?_
    rw [magnitude, hzero] at h
    simp at h
  | nan | infinity => rfl

theorem truncate_ok (h : x.IsFinite) : ∃ k, x.truncate = .ok k := by
  obtain ⟨negative, m, e, rfl⟩ := exists_eq_finite h
  exact ⟨_, rfl⟩

/-- The product of two moderate numbers. -/
theorem atMost_mul (hx : x.AtMost r) (hy : y.AtMost s) (hlt : r * s < 2 ^ 1023) :
    (x.mul y).AtMost (2 * (r * s)) := by
  obtain ⟨hfinite, hr⟩ := hx
  obtain ⟨negative, m, e, rfl⟩ := exists_eq_finite hfinite
  obtain ⟨hfinite', hs⟩ := hy
  obtain ⟨negative', n, f, rfl⟩ := exists_eq_finite hfinite'
  obtain ⟨hpos, hscale⟩ := scale_spec (m * n) Nat.one_pos (e + f)
  refine atMost_ofRatio hpos ?_ hlt
  calc _ = ((m * n : Nat) : ℚ) / (1 : Nat) * 2 ^ (e + f) := hscale
    _ = m * 2 ^ e * (n * 2 ^ f) := by
        rw [zpow_add₀ (by norm_num)]
        push_cast
        ring
    _ ≤ r * s := mul_le_mul hr hs (magnitude_nonneg (.finite negative' n f))
        (le_trans (magnitude_nonneg (.finite negative m e)) hr)

/-- The quotient of a moderate number by one that is not too small. -/
theorem atMost_div (hx : x.AtMost r) (hy : y.IsFinite) (hs : 0 < s) (hle : s ≤ y.magnitude)
    (hlt : r / s < 2 ^ 1023) : ∃ z, x.div y = .ok z ∧ z.AtMost (2 * (r / s)) := by
  obtain ⟨hfinite, hr⟩ := hx
  obtain ⟨negative, m, e, rfl⟩ := exists_eq_finite hfinite
  obtain ⟨negative', n, f, rfl⟩ := exists_eq_finite hy
  have hdivisor := isZero_eq_false_of_magnitude (lt_of_lt_of_le hs hle)
  have hn : 0 < n := Nat.pos_of_ne_zero (of_decide_eq_false hdivisor)
  obtain ⟨hpos, hscale⟩ := scale_spec m hn (e - f)
  refine ⟨_, by rw [div, div?, hdivisor]; rfl, atMost_ofRatio hpos ?_ hlt⟩
  calc _ = (m / n : ℚ) * 2 ^ (e - f) := hscale
    _ = m * 2 ^ e / (n * 2 ^ f) := by
        rw [zpow_sub₀ (by norm_num)]
        field_simp
    _ ≤ r / s := div_le_div₀ (le_trans (magnitude_nonneg (.finite negative m e)) hr) hr hs hle

/-! ### Whole numbers -/

theorem pow_le_integerLimit (hk : k ≤ 1023) : 2 ^ k ≤ integerLimit := by
  have hsplit (a b : Nat) (h : k ≤ a + b) : 2 ^ k ≤ 2 ^ a * 2 ^ b := by
    rw [← Nat.pow_add]
    exact Nat.pow_le_pow_right Nat.two_pos h
  exact Nat.le_trans (hsplit 53 970 hk) (Nat.mul_le_mul_right _ (by decide))

theorem integerLimit_le_pow : integerLimit ≤ 2 ^ 1024 := by
  have hsplit : (2 : Nat) ^ 1024 = 2 ^ 54 * 2 ^ 970 := by rw [← Nat.pow_add]
  rw [hsplit]
  exact Nat.mul_le_mul_right _ (by decide)

/-- A whole number is rounded to a multiple of the unit of its last place. -/
theorem rounded_one {p : Nat} (hplace : lastPlace num 1 = (p + 1 : Nat)) :
    rounded num 1 = roundDiv num (2 * 2 ^ p) := by
  have hscale : scale num 1 (-(p + 1 : Nat)) = (num, 2 * 2 ^ p) := by
    rw [scale, if_neg (by omega), Int.neg_neg, Int.toNat_natCast, Nat.one_mul, twoTo,
      ← Nat.pow_succ']
    rfl
  rw [rounded, hplace, hscale]

/-- A number with `53` bits before the last place is rounded up to the next power of two from the
middle between that and the number before it on. -/
theorem rounded_one_ne_iff {p : Nat} (hplace : lastPlace num 1 = (p + 1 : Nat))
    (hnum : num ≠ 0) (hlog : num.log2 < p + 54) :
    rounded num 1 ≠ twoTo 53 ↔ num < (2 ^ 54 - 1) * 2 ^ p := by
  have hodd : 2 ^ 53 - 1 < rounded num 1 ↔ (2 ^ 54 - 1) * 2 ^ p ≤ num := by
    rw [rounded_one hplace]
    exact lt_roundDiv_iff (by positivity) (by decide)
  have hquotient : num / (2 * 2 ^ p) < 2 ^ 53 := by
    rw [Nat.div_lt_iff_lt_mul (by positivity), ← Nat.pow_succ', ← Nat.pow_add]
    exact Nat.lt_of_lt_of_le ((Nat.log2_lt hnum).1 hlog)
      (Nat.pow_le_pow_right Nat.two_pos (by omega))
  have hle := roundDiv_le num (2 * 2 ^ p)
  rw [← rounded_one hplace] at hle
  have htwo : twoTo 53 = 2 ^ 53 := rfl
  rw [htwo, ← Nat.not_le, ← hodd]
  generalize num / (2 * 2 ^ p) = q at hle hquotient
  omega

/-- The numbers next to whole ones are finite up to a limit. -/
theorem isFinite_ofRatio_one_iff (num : Nat) :
    (ofRatio negative num 1).IsFinite ↔ num < integerLimit := by
  by_cases hnum : num = 0
  · subst hnum
    refine iff_of_true (by rw [ofRatio, if_pos rfl]; trivial) ?_
    unfold integerLimit
    positivity
  · have hplace : lastPlace num 1 = max (-1074) ((num.log2 : Int) - 52) := by
      rw [lastPlace, binade_one num hnum]
      rfl
    rw [isFinite_ofRatio_iff hnum, maxExponent]
    rcases Nat.lt_trichotomy num.log2 1023 with hlt | heq | hgt
    · have hpow : num < 2 ^ 1023 := by rwa [← Nat.log2_lt hnum]
      refine iff_of_true (.inl (by omega)) (Nat.lt_of_lt_of_le hpow ?_)
      exact pow_le_integerLimit (by decide)
    · -- In the last binade what is rounded up to the next power of two is too large.
      have hplace : lastPlace num 1 = (970 + 1 : Nat) := by omega
      have hcarry := rounded_one_ne_iff hplace hnum (by omega)
      rw [integerLimit, ← hcarry, hplace]
      exact ⟨fun h => (h.resolve_left (by decide)).2, fun h => .inr ⟨rfl, h⟩⟩
    · have hpow : 2 ^ 1024 ≤ num := by rwa [← Nat.le_log2 hnum]
      exact iff_of_false (by omega) (Nat.not_lt.2 (Nat.le_trans integerLimit_le_pow hpow))

/-- **Whole numbers with a number next to them.** -/
theorem ofInt_ok_iff {n : Int} : (∃ x, ofInt n = .ok x) ↔ n.natAbs < integerLimit := by
  rw [← @isFinite_ofRatio_one_iff (n < 0)]
  unfold ofInt ofInt?
  cases ofRatio (n < 0) n.natAbs 1 with
  | finite negative m e => exact iff_of_true ⟨_, rfl⟩ trivial
  | nan | infinity => exact iff_of_false nofun id

theorem ofInt_eq_ok {n : Int} (hx : ofInt n = .ok x) :
    x.IsFinite ∧ x = ofRatio (n < 0) n.natAbs 1 := by
  unfold ofInt ofInt? at hx
  cases hratio : ofRatio (n < 0) n.natAbs 1 with
  | finite negative m e =>
    rw [hratio] at hx
    cases hx
    exact ⟨trivial, rfl⟩
  | nan | infinity =>
    rw [hratio] at hx
    cases hx

theorem ofInt_eq_error {n : Int} {f : ArithmeticFault} (hf : ofInt n = .error f) :
    f = .integerTooLarge := by
  unfold ofInt at hf
  split at hf
  · cases hf
  · cases hf
    rfl

theorem atMost_ofInt {n : Int} (hx : ofInt n = .ok x) : x.AtMost (2 * n.natAbs) := by
  obtain ⟨hfinite, rfl⟩ := ofInt_eq_ok hx
  have hle := magnitude_ofRatio_le Nat.one_pos hfinite
  rw [Nat.cast_one, div_one] at hle
  exact ⟨hfinite, hle⟩

theorem le_magnitude_ofInt {n : Int} (hn : n ≠ 0) (hx : ofInt n = .ok x) :
    (n.natAbs : ℚ) / 2 ≤ x.magnitude := by
  obtain ⟨hfinite, rfl⟩ := ofInt_eq_ok hx
  have hle := le_magnitude_ofRatio Nat.one_pos (Int.natAbs_pos.2 hn) hfinite
  rw [Nat.cast_one, div_one] at hle
  linarith

end Binary64
end TrafficReplay
