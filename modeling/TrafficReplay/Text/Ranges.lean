/-!
# Classes of characters

A class of characters is a list of code point ranges; `inRanges` is membership.
-/

namespace TrafficReplay.Text

/-- Whether one of the ranges, ends included, holds the character. -/
def inRanges (ranges : List (Nat × Nat)) (c : Char) : Bool :=
  ranges.any fun r => r.1 ≤ c.toNat && c.toNat ≤ r.2

@[simp] theorem inRanges_nil (c : Char) : inRanges [] c = false := rfl

theorem inRanges_iff {ranges : List (Nat × Nat)} {c : Char} :
    inRanges ranges c = true ↔ ∃ r ∈ ranges, r.1 ≤ c.toNat ∧ c.toNat ≤ r.2 := by
  simp [inRanges]

end TrafficReplay.Text
