import TrafficReplay.Number.Binary64

/-!
# Decimal text of a floating point number

* `fixed`: a given number of places, the exact value rounded with ties to even;
* `roundTo`: the number nearest to that decimal;
* `exponential`, `general`: a given number of digits, with an exponent always or if it is shorter;
* `shortest`: the fewest digits that read back as the same number.
-/

namespace TrafficReplay.Binary64

/-- A power of ten. -/
def tenTo (n : Nat) : Nat := Nat.pow 10 n

/-- Zeros in front of a text, up to a width. -/
def zeroPadded (width : Nat) (s : String) : String :=
  String.ofList (List.replicate (width - s.length) '0') ++ s

/-- The sign of a number, as text. -/
def signText (negative : Bool) : String := if negative then "-" else ""

/-- A whole number of units of `10 ^ -places`, written with a point. -/
def pointed (places n : Nat) : String :=
  if places = 0 then toString n
  else toString (n / tenTo places) ++ "." ++ zeroPadded places (toString (n % tenTo places))

/-- The magnitude of a finite number in units of `10 ^ -places`, ties to even. -/
def inUnits (places m : Nat) (e : Int) : Nat :=
  let (n, d) := scale (m * tenTo places) 1 e
  roundDiv n d

/-- The whole number nearest to a finite number, ties to even; zero for the others. -/
def nearest : Binary64 → Int
  | .finite s m e => if s then -(inUnits 0 m e : Int) else inUnits 0 m e
  | _ => 0

/-- A number with a fixed number of places behind the point. -/
def fixed (places : Nat) : Binary64 → String
  | .nan => "nan"
  | .infinity s => signText s ++ "inf"
  | .finite s m e => signText s ++ pointed places (inUnits places m e)

/-- The number nearest to the decimal with the given number of places. -/
def roundTo (places : Nat) : Binary64 → Binary64
  | .finite s m e => ofRatio s (inUnits places m e) (tenTo places)
  | x => x

/-! ### Shortest digits -/

/-- The decimal `d · 10 ^ k`. -/
structure Scientific where
  digits : Nat
  exponent : Int
  deriving DecidableEq, Repr

/-- A decimal as a ratio of naturals. -/
def Scientific.ratio (x : Scientific) : Nat × Nat :=
  if 0 ≤ x.exponent then (x.digits * tenTo x.exponent.toNat, 1)
  else (x.digits, tenTo (-x.exponent).toNat)

/-- The number nearest to a decimal. -/
def ofScientific (negative : Bool) (x : Scientific) : Binary64 :=
  let (n, d) := x.ratio
  ofRatio negative n d

/-- The exponent of the first decimal digit of a positive ratio. -/
def decade (n d : Nat) : Int :=
  if d ≤ n then ((toString (n / d)).length : Int) - 1
  else
    let l := (toString (d / n)).length
    if d ≤ n * tenTo (l - 1) then 1 - (l : Int) else -(l : Int)

/-- The decimals next to a positive ratio on the grid of `10 ^ k`, the nearer one first and the
even one first when both are equally near. -/
def neighbours (n d : Nat) (k : Int) : List Scientific :=
  let (n, d) := if 0 ≤ k then (n, d * tenTo k.toNat) else (n * tenTo (-k).toNat, d)
  let q := n / d
  if roundDiv n d = q then [⟨q, k⟩, ⟨q + 1, k⟩] else [⟨q + 1, k⟩, ⟨q, k⟩]

/-- The first decimal that reads back as the number, over finer and finer grids. -/
def firstReadingBack (m : Nat) (e : Int) (n d : Nat) : Nat → Int → Scientific
  | 0, k => ⟨n / d, k⟩
  | fuel + 1, k =>
    match (neighbours n d k).find? fun x => ofScientific false x == .finite false m e with
    | some x => x
    | none => firstReadingBack m e n d fuel (k - 1)

/-- The decimal of fewest digits that reads back as the finite number `m · 2 ^ e`, and of those the
nearest one. -/
def shortestDecimal (m : Nat) (e : Int) : Scientific :=
  let (n, d) := scale m 1 e
  firstReadingBack m e n d 17 (decade n d)

/-- Remove the zeros at the end of a row of digits. -/
def stripZeros (s : List Char) : List Char := (s.reverse.dropWhile (· == '0')).reverse

/-- The exponent of a decimal, with its sign and a least number of digits. -/
def exponentText (width : Nat) (x : Int) : String :=
  "e" ++ (if x < 0 then "-" else "+") ++ zeroPadded width (toString x.natAbs)

/-- How a shortest decimal is laid out: the positions of the point that are written without an
exponent, and the least number of exponent digits. -/
structure Layout where
  leastPoint : Int
  greatestPoint : Int
  exponentDigits : Nat

/-- Numbers from `0.0001` up to below `10 ^ 16` are written without an exponent. -/
def plainLayout : Layout := ⟨-3, 16, 2⟩

/-- Lay out digits whose point stands `point` places behind the first one's front. -/
def layOut (layout : Layout) (digits : List Char) (point : Int) : String :=
  let zeros (n : Nat) := String.ofList (List.replicate n '0')
  if layout.leastPoint ≤ point ∧ point ≤ layout.greatestPoint then
    if point ≤ 0 then "0." ++ zeros (-point).toNat ++ String.ofList digits
    else
      let p := point.toNat
      if digits.length ≤ p then
        String.ofList digits ++ zeros (p - digits.length) ++ ".0"
      else String.ofList (digits.take p) ++ "." ++ String.ofList (digits.drop p)
  else
    let x := point - 1
    let mantissa :=
      match digits with
      | [] => ""
      | [c] => String.singleton c
      | c :: cs => String.ofList (c :: '.' :: cs)
    mantissa ++ exponentText layout.exponentDigits x

/-- The shortest text that reads back as the number. -/
def shortest : Binary64 → String
  | .nan => "nan"
  | .infinity s => signText s ++ "inf"
  | .finite s m e =>
    if m = 0 then signText s ++ "0.0"
    else
      let x := shortestDecimal m e
      let all := (toString x.digits).toList
      signText s ++ layOut plainLayout (stripZeros all) (all.length + x.exponent)

/-! ### Significant digits -/

/-- A ratio rounded to one digit in front of the point and some places behind it, ties to even: its
digits and the exponent of the first one. -/
def significant (places n d : Nat) : Nat × Int :=
  if n = 0 then (0, 0)
  else
    let x := decade n d
    let k := (places : Int) - x
    let q := if 0 ≤ k then roundDiv (n * tenTo k.toNat) d else roundDiv n (d * tenTo (-k).toNat)
    if q = tenTo (places + 1) then (tenTo places, x + 1) else (q, x)

/-- A text without zeros at the end behind its point, and without a point that ends it. -/
def trimPlaces (s : String) : String :=
  if s.contains '.' then
    let s := stripZeros s.toList
    String.ofList (if s.getLast? = some '.' then s.dropLast else s)
  else s

/-- A text with a point, at the end if there is none. -/
def withPoint (s : String) : String := if s.contains '.' then s else s ++ "."

/-- A number with one digit in front of the point, some places behind it and an exponent. -/
def exponential (layOutPlaces : String → String) (places : Nat) : Binary64 → String
  | .nan => "nan"
  | .infinity s => signText s ++ "inf"
  | .finite s m e =>
    let (n, d) := scale m 1 e
    let (q, x) := significant places n d
    signText s ++ layOutPlaces (pointed places q) ++ exponentText plainLayout.exponentDigits x

/-- A number with a given number of digits; with an exponent if it is below `-4` or not below the
number of digits. -/
def general (layOutPlaces : String → String) (digits : Nat) : Binary64 → String
  | .finite s m e =>
    let places := digits - 1
    let (n, d) := scale m 1 e
    let x := (significant places n d).2
    if -4 ≤ x ∧ x ≤ places then layOutPlaces (fixed (places - x).toNat (.finite s m e))
    else exponential layOutPlaces places (.finite s m e)
  | x => fixed 0 x

end TrafficReplay.Binary64
