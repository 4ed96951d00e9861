import TrafficReplay.Number.Decimal
import TrafficReplay.Text.Digit
import TrafficReplay.Text.Lower

/-!
# Reading a floating point number

A floating point number is typed as digits with an optional point and exponent, or as the name of
an infinity or of NaN. White space around it and single underscores between digits do not count,
and a magnitude beyond the finite numbers reads as an infinity.
-/

namespace TrafficReplay.Binary64
open TrafficReplay.Text

/-- Write the digits of every script as ASCII ones. -/
def asciiDigits (s : List Char) : List Char :=
  s.map fun c => match digitValue? c with
    | some d => Char.ofNat (0x30 + d)
    | none => c

/-- Remove single underscores between digits; `none` for an underscore elsewhere. -/
def ungroup? (before : Bool) : List Char → Option (List Char)
  | [] => some []
  | '_' :: s => if before && (s.headD ' ').isDigit then ungroup? false s else none
  | c :: s => (ungroup? c.isDigit s).map (c :: ·)

/-- The values of the digits in front of a text, and the text behind them. -/
def leadingDigits (s : List Char) : List Nat × List Char :=
  ((s.takeWhile Char.isDigit).map fun c => c.toNat - 0x30, s.dropWhile Char.isDigit)

/-- An exponent part up to the end of the text, or nothing. -/
def readExponent? : List Char → Option Int
  | [] => some 0
  | c :: s =>
    if c = 'e' ∨ c = 'E' then
      let (negative, s) := signOf s
      let (ds, rest) := leadingDigits s
      if ds.isEmpty || !rest.isEmpty then none
      else some (if negative then -(digitsValue ds : Int) else digitsValue ds)
    else none

/-- A decimal so large or so small that its exponent decides rounds to an infinity or to zero. -/
def ofDecimal (negative : Bool) (digits : Nat) (exponent : Int) : Binary64 :=
  if digits = 0 then zero negative
  else
    let size : Int := (toString digits).length + exponent
    if 400 < size then .infinity negative
    else if size < -400 then zero negative
    else ofScientific negative ⟨digits, exponent⟩

/-- The names of the numbers that are not finite. -/
def readName? (negative : Bool) (s : List Char) : Option Binary64 :=
  let name := lowerText (.ofChars s)
  if name = "inf" ∨ name = "infinity" then some (.infinity negative)
  else if name = "nan" then some .nan
  else none

/-- Read a floating point number as it is typed. -/
def read? (s : List Char) : Option Binary64 := do
  let s ← ungroup? false (asciiDigits (trimNumber s))
  let (negative, s) := signOf s
  match readName? negative s with
  | some x => return x
  | none =>
    let (whole, s) := leadingDigits s
    let (places, s) := match s with
      | '.' :: s => leadingDigits s
      | s => ([], s)
    if whole.isEmpty && places.isEmpty then none
    else
      let x ← readExponent? s
      return ofDecimal negative (digitsValue (whole ++ places)) (x - places.length)

end TrafficReplay.Binary64
