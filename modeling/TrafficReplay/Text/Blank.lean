import TrafficReplay.Text.Ranges

/-!
# White space

White space is what separates words in any script: the ASCII controls from tab to carriage return
and from the file to the unit separator, the next-line control, and the Unicode spaces.

* `trim`: remove white space at both ends;
* `trimNumber`: remove what may stand around a number, which is less.
-/

namespace TrafficReplay.Text

/-- The code points of white space. -/
def blankRanges : List (Nat × Nat) :=
  [(0x9, 0xd), (0x1c, 0x20), (0x85, 0x85), (0xa0, 0xa0), (0x1680, 0x1680), (0x2000, 0x200a),
   (0x2028, 0x2029), (0x202f, 0x202f), (0x205f, 0x205f), (0x3000, 0x3000)]

/-- Whether a character is white space. -/
def isBlank (c : Char) : Bool := inRanges blankRanges c

/-- Whether a character may stand around a number: white space but for the separator controls. -/
def isNumberBlank (c : Char) : Bool := isBlank c && !inRanges [(0x1c, 0x1f)] c

/-- Remove what passes a test at both ends. -/
def trimBy {α : Type} (p : α → Bool) (s : List α) : List α :=
  ((s.dropWhile p).reverse.dropWhile p).reverse

/-- Remove white space at both ends. -/
def trim (s : List Char) : List Char := trimBy isBlank s

/-- Remove what may stand around a number. -/
def trimNumber (s : List Char) : List Char := trimBy isNumberBlank s

/-- A text in which nothing passes the test stays as it is. -/
theorem trimBy_eq_self {α : Type} {p : α → Bool} {s : List α} (h : ∀ c ∈ s, p c = false) :
    trimBy p s = s := by
  have hdrop (s : List α) (h : ∀ c ∈ s, p c = false) : s.dropWhile p = s := by
    cases s with
    | nil => rfl
    | cons c s => rw [List.dropWhile_cons, h c List.mem_cons_self, if_neg Bool.false_ne_true]
  rw [trimBy, hdrop s h, hdrop _ fun c hc => h c (List.mem_reverse.mp hc), List.reverse_reverse]

theorem isBlank_of_isDigit {c : Char} (h : c.isDigit = true) : isBlank c = false := by
  rw [Char.isDigit_iff_toNat] at h
  have hzero : '0'.toNat = 48 := rfl
  have hnine : '9'.toNat = 57 := rfl
  simp [isBlank, inRanges, blankRanges]
  omega

end TrafficReplay.Text
