import TrafficReplay.Text.Basic
import TrafficReplay.Text.Blank

/-!
# Decimal digits

The decimal digits of every script come in runs of ten consecutive code points. Reading a number
accepts any of them:

* `readSize?` reads a text of digits alone, as sizes, statuses and times are recorded;
* `readInt` also takes a sign, surrounding white space and single underscores between digits, as
  numbers are typed.

Neither reads a number of more than `maxDigits` digits.

Main statement: a number is read back from the digits it is written with (`readInt_toString`).
-/

namespace TrafficReplay.Text

/-- The zeros of the scripts; each is followed by its digits one to nine. -/
def digitZeros : List Nat :=
  [0x30, 0x660, 0x6f0, 0x7c0, 0x966, 0x9e6, 0xa66, 0xae6, 0xb66, 0xbe6, 0xc66, 0xce6, 0xd66, 0xde6,
   0xe50, 0xed0, 0xf20, 0x1040, 0x1090, 0x17e0, 0x1810, 0x1946, 0x19d0, 0x1a80, 0x1a90, 0x1b50,
   0x1bb0, 0x1c40, 0x1c50, 0xa620, 0xa8d0, 0xa900, 0xa9d0, 0xa9f0, 0xaa50, 0xabf0, 0xff10,
   0x104a0, 0x10d30, 0x11066, 0x110f0, 0x11136, 0x111d0, 0x112f0, 0x11450, 0x114d0, 0x11650,
   0x116c0, 0x11730, 0x118e0, 0x11950, 0x11c50, 0x11d50, 0x11da0, 0x16a60, 0x16ac0, 0x16b50,
   0x1d7ce, 0x1d7d8, 0x1d7e2, 0x1d7ec, 0x1d7f6, 0x1e140, 0x1e2f0, 0x1e950, 0x1fbf0]

/-- The value of a decimal digit of any script. -/
def digitValue? (c : Char) : Option Nat :=
  (digitZeros.find? fun z => z ≤ c.toNat && c.toNat < z + 10).map fun z => c.toNat - z

/-- The value of a code point that is a decimal digit. -/
def pointValue? (c : CodePoint) : Option Nat := c.char?.bind digitValue?

/-- Whether there are digits, one at least, and nothing else. -/
def isDecimal {α : Type} (value? : α → Option Nat) (s : List α) : Bool :=
  !s.isEmpty && s.all fun c => (value? c).isSome

/-- The value of a row of digits, most significant first. -/
def digitsValue (ds : List Nat) : Nat := ds.foldl (fun n d => 10 * n + d) 0

/-- The longest number, in digits, that is read. -/
def maxDigits : Nat := 4300

/-- Why a text is not read as a number. -/
inductive NumberFault
  | malformed
  | tooLong (digits : Nat)
  deriving DecidableEq, Repr

/-- The wording for a number that has too many digits. -/
def numberTooLongMessage (digits : Nat) : String :=
  "Exceeds the limit (4300 digits) for integer string conversion: value has " ++ toString digits ++
    " digits; use sys.set_int_max_str_digits() to increase the limit"

/-- The value of a row of digits that is not too long. -/
def readDigits (ds : List Nat) : Except NumberFault Nat :=
  if maxDigits < ds.length then .error (.tooLong ds.length) else .ok (digitsValue ds)

/-- The code points of a text without the white space at its ends. -/
def trimmed (t : Text) : List CodePoint := trimBy (fun c => c.char?.any isBlank) t.toList

/-- A number written with digits alone; white space at the ends does not count. The answer is
`none` for any other text. -/
def readSize? (t : Text) : Except NumberFault (Option Nat) :=
  let s := trimmed t
  if isDecimal pointValue? s then (readDigits (s.filterMap pointValue?)).map some else .ok none

/-- The digits of a text in which single underscores may stand between digits. -/
def groupedDigits? : List Char → Option (List Nat)
  | [] => none
  | [c] => (digitValue? c).map fun d => [d]
  | c :: '_' :: s => do return (← digitValue? c) :: (← groupedDigits? s)
  | c :: s => do return (← digitValue? c) :: (← groupedDigits? s)

/-- Split a sign off; the answer is whether it is a minus. -/
def signOf : List Char → Bool × List Char
  | '-' :: s => (true, s)
  | '+' :: s => (false, s)
  | s => (false, s)

/-- A whole number as it is typed. -/
def readInt (s : List Char) : Except NumberFault Int :=
  let (negative, s) := signOf (trimNumber s)
  match groupedDigits? s with
  | none => .error .malformed
  | some ds => (readDigits ds).map fun n => if negative then -n else n

/-! ### Numbers that are written with plain digits -/

theorem digitValue?_of_isDigit {c : Char} (h : c.isDigit = true) :
    digitValue? c = some (c.toNat - '0'.toNat) := by
  rw [Char.isDigit_iff_toNat] at h
  have hzeros : digitZeros = '0'.toNat :: digitZeros.tail := rfl
  have hnine : '9'.toNat + 1 = '0'.toNat + 10 := rfl
  rw [digitValue?, hzeros, List.find?_cons_of_pos, Option.map_some]
  rw [Bool.and_eq_true, decide_eq_true_eq, decide_eq_true_eq]
  omega

theorem groupedDigits?_of_isDigit {s : List Char} (hs : s ≠ []) (h : ∀ c ∈ s, c.isDigit = true) :
    groupedDigits? s = some (s.map fun c => c.toNat - '0'.toNat) := by
  induction s using groupedDigits?.induct with
  | case1 => exact absurd rfl hs
  | case2 c => simp [groupedDigits?, digitValue?_of_isDigit (h c List.mem_cons_self)]
  | case3 c s ih => exact absurd (h '_' (by simp)) (by decide)
  | case4 c s hnil hcons ih =>
    obtain ⟨hc, hrest⟩ := List.forall_mem_cons.mp h
    rw [groupedDigits?, digitValue?_of_isDigit hc, ih hnil hrest]
    · rfl
    · exact hnil
    · exact hcons

theorem signOf_of_isDigit {s : List Char} (h : ∀ c ∈ s, c.isDigit = true) :
    signOf s = (false, s) := by
  unfold signOf
  split
  · exact absurd (h '-' List.mem_cons_self) (by decide)
  · exact absurd (h '+' List.mem_cons_self) (by decide)
  · rfl

/-- A number is read back from its digits, if these are not too many. -/
theorem readInt_toString {n : Nat} (h : (toString n).toList.length ≤ maxDigits) :
    readInt (toString n).toList = .ok n := by
  rw [Nat.toString_eq_repr, Nat.toList_repr] at h ⊢
  have hdigits : ∀ c ∈ Nat.toDigits 10 n, c.isDigit = true := fun c hc =>
    Nat.isDigit_of_mem_toDigits (by decide) (by decide) hc
  have htrim : trimNumber (Nat.toDigits 10 n) = Nat.toDigits 10 n := by
    refine trimBy_eq_self fun c hc => ?_
    rw [isNumberBlank, isBlank_of_isDigit (hdigits c hc), Bool.false_and]
  have hvalue : digitsValue ((Nat.toDigits 10 n).map fun c => c.toNat - '0'.toNat) = n := by
    rw [digitsValue, List.foldl_map]
    exact Nat.ofDigitChars_ten_toDigits
  simp only [readInt, htrim, signOf_of_isDigit hdigits,
    groupedDigits?_of_isDigit Nat.toDigits_ne_nil hdigits, readDigits, List.length_map,
    Nat.not_lt.mpr h, if_false, hvalue]
  rfl

end TrafficReplay.Text
