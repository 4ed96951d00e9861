/-!
# Binary floating point

Double precision numbers as exact values: a finite number is a sign, a whole significand below
`2 ^ 53` and an exponent of two. An operation computes the exact result as a ratio of naturals and
rounds it once, to nearest with ties to even (`ofRatio`).

* `ofBits`, `toBits`: the interchange format;
* `ofInt?`, `quotient?`: the number nearest to an integer, or to a quotient of two;
* `mul`, `div?`, `sub`, `compare?`: arithmetic and order;
* `truncate`: the integer part.
-/

namespace TrafficReplay

/-- Why a number has no result. -/
inductive ArithmeticFault
  /-- An integer without a finite number next to it. -/
  | integerTooLarge
  /-- A quotient of integers without a finite number next to it. -/
  | quotientTooLarge
  | divisionByZero
  /-- The integer part of an infinity. -/
  | infinite
  /-- The integer part of NaN. -/
  | notANumber
  deriving DecidableEq, Repr

/-- The wording of a fault. -/
def ArithmeticFault.message : ArithmeticFault → String
  | .integerTooLarge => "int too large to convert to float"
  | .quotientTooLarge => "integer division result too large for a float"
  | .divisionByZero => "division by zero"
  | .infinite => "cannot convert float infinity to integer"
  | .notANumber => "cannot convert float NaN to integer"

/-- A double precision number. Finite numbers are kept in the form that `Binary64.ofRatio` gives:
the significand has 53 bits unless the exponent is the least one. -/
inductive Binary64
  | nan
  | infinity (negative : Bool)
  | finite (negative : Bool) (significand : Nat) (exponent : Int)
  deriving DecidableEq, Repr

namespace Binary64

/-- A power of two. -/
def twoTo (n : Nat) : Nat := Nat.pow 2 n

/-- The least exponent of a finite number. -/
def minExponent : Int := -1074

/-- The greatest exponent of a finite number. -/
def maxExponent : Int := 971

/-- The zero with a sign. -/
def zero (negative : Bool) : Binary64 := .finite negative 0 minExponent

/-- The whole number nearest to `num / den`, the even one of two. -/
def roundDiv (num den : Nat) : Nat :=
  let q := num / den
  let r := num % den
  if 2 * r < den then q else if den < 2 * r then q + 1 else q + q % 2

/-- The ratio `num / den · 2 ^ e` as a ratio of naturals. -/
def scale (num den : Nat) (e : Int) : Nat × Nat :=
  if 0 ≤ e then (num * twoTo e.toNat, den) else (num, den * twoTo (-e).toNat)

/-- The exponent of two at or below a positive ratio. -/
def binade (num den : Nat) : Int :=
  let l : Int := (num.log2 : Int) - (den.log2 : Int)
  let (n, d) := scale num den (-l)
  if d ≤ n then l else l - 1

/-- The number nearest to `± num / den`. -/
def ofRatio (negative : Bool) (num den : Nat) : Binary64 :=
  if num = 0 then zero negative
  else
    let e := max minExponent (binade num den - 52)
    let (n, d) := scale num den (-e)
    let m := roundDiv n d
    let (m, e) := if m = twoTo 53 then (twoTo 52, e + 1) else (m, e)
    if maxExponent < e then .infinity negative else .finite negative m e

/-- The number nearest to `± m · 2 ^ e`. -/
def ofScaled (negative : Bool) (m : Nat) (e : Int) : Binary64 :=
  let (n, d) := scale m 1 e
  ofRatio negative n d

/-! ### Interchange format -/

/-- The number with the given 64 bits. -/
def ofBits (bits : Nat) : Binary64 :=
  let negative : Bool := bits / twoTo 63 % 2 == 1
  let field : Nat := bits / twoTo 52 % twoTo 11
  let fraction : Nat := bits % twoTo 52
  if field = 2047 then if fraction = 0 then .infinity negative else .nan
  else if field = 0 then .finite negative fraction minExponent
  else .finite negative (twoTo 52 + fraction) ((field : Int) - 1075)

/-- The 64 bits of a number; every NaN has the same ones. -/
def toBits : Binary64 → Nat
  | .nan => 2047 * twoTo 52 + twoTo 51
  | .infinity negative => negative.toNat * twoTo 63 + 2047 * twoTo 52
  | .finite negative m e =>
    negative.toNat * twoTo 63 +
      (if m < twoTo 52 then m else (e + 1075).toNat * twoTo 52 + (m - twoTo 52))

/-! ### Whole numbers -/

/-- A finite number, or `none` for the others. -/
def finite? : Binary64 → Option Binary64
  | .finite s m e => some (.finite s m e)
  | _ => none

/-- The number nearest to an integer; `none` when it is too large for a finite one. -/
def ofInt? (n : Int) : Option Binary64 := (ofRatio (n < 0) n.natAbs 1).finite?

/-- The number nearest to `a / b`, where `b` is not zero; `none` when it is too large. -/
def quotient? (a b : Int) : Option Binary64 :=
  if a = 0 then some (zero false)
  else (ofRatio ((a < 0) != (b < 0)) a.natAbs b.natAbs).finite?

/-- The number nearest to an integer. -/
def ofInt (n : Int) : Except ArithmeticFault Binary64 :=
  match ofInt? n with
  | some x => .ok x
  | none => .error .integerTooLarge

/-- The number nearest to `a / b`. -/
def quotient (a b : Int) : Except ArithmeticFault Binary64 :=
  if b = 0 then .error .divisionByZero
  else
    match quotient? a b with
    | some x => .ok x
    | none => .error .quotientTooLarge

/-- The integer part, towards zero. -/
def truncate : Binary64 → Except ArithmeticFault Int
  | .nan => .error .notANumber
  | .infinity _ => .error .infinite
  | .finite negative m e =>
    let (n, d) := scale m 1 e
    .ok (if negative then -((n / d : Nat) : Int) else ((n / d : Nat) : Int))

/-! ### Arithmetic -/

/-- Whether a number has a minus sign. -/
def isNegative : Binary64 → Bool
  | .nan => false
  | .infinity s => s
  | .finite s _ _ => s

/-- Whether a number is a zero of either sign. -/
def isZero : Binary64 → Bool
  | .finite _ m _ => m = 0
  | _ => false

/-- The product. -/
def mul : Binary64 → Binary64 → Binary64
  | .finite s m e, .finite t n f => ofScaled (s != t) (m * n) (e + f)
  | .nan, _ | _, .nan => .nan
  | .infinity s, y => if y.isZero then .nan else .infinity (s != y.isNegative)
  | x, .infinity t => if x.isZero then .nan else .infinity (x.isNegative != t)

/-- The quotient; `none` for a zero divisor. -/
def div? (x y : Binary64) : Option Binary64 :=
  if y.isZero then none
  else
    some <|
      match x, y with
      | .nan, _ | _, .nan => .nan
      | .infinity _, .infinity _ => .nan
      | .infinity s, y => .infinity (s != y.isNegative)
      | x, .infinity t => zero (x.isNegative != t)
      | .finite s m e, .finite t n f =>
        let (a, b) := scale m n (e - f)
        ofRatio (s != t) a b

/-- The quotient of a divisor that is not zero. -/
def div (x y : Binary64) : Except ArithmeticFault Binary64 :=
  match div? x y with
  | some z => .ok z
  | none => .error .divisionByZero

/-- The significand of a finite number with its sign, at an exponent not above its own. -/
def alignedTo (f : Int) (negative : Bool) (m : Nat) (e : Int) : Int :=
  let n : Int := m * twoTo (e - f).toNat
  if negative then -n else n

/-- The difference. -/
def sub : Binary64 → Binary64 → Binary64
  | .nan, _ | _, .nan => .nan
  | .infinity s, .infinity t => if s = t then .nan else .infinity s
  | .infinity s, _ => .infinity s
  | _, .infinity t => .infinity !t
  | .finite s m e, .finite t n f =>
    let g := min e f
    let d := alignedTo g s m e - alignedTo g t n f
    if d = 0 then zero (s && !t) else ofScaled (d < 0) d.natAbs g

/-- The order of two numbers; a NaN has none. -/
def compare? : Binary64 → Binary64 → Option Ordering
  | .nan, _ | _, .nan => none
  | .infinity s, .infinity t =>
    some (if s = t then .eq else if s then .lt else .gt)
  | .infinity s, _ => some (if s then .lt else .gt)
  | _, .infinity t => some (if t then .gt else .lt)
  | .finite s m e, .finite t n f =>
    let g := min e f
    some (compare (alignedTo g s m e) (alignedTo g t n f))

/-- Whether `x ≤ y`. -/
def le (x y : Binary64) : Bool :=
  match compare? x y with
  | some .gt | none => false
  | _ => true

/-- Whether `x < y`. -/
def lt (x y : Binary64) : Bool := compare? x y = some .lt

/-! ### Examples -/

/-- One. -/
def one : Binary64 := .finite false (twoTo 52) (-52)

example : ofInt? 1 = some one := by decide +kernel
example : toBits one = 0x3ff0000000000000 := by decide +kernel
example : ofBits 0x3ff0000000000000 = one := by decide +kernel
example : (quotient? 1 10).map toBits = some 0x3fb999999999999a := by decide +kernel

end Binary64

end TrafficReplay
