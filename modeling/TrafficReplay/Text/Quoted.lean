import TrafficReplay.Text.Basic
import TrafficReplay.Text.Ranges
import TrafficReplay.Text.PrintTable

/-!
# Quoted text

A text is quoted for a message between single quotes, or between double quotes when it holds a
single quote and no double one. The backslash and the surrounding quote are escaped, and so is
every code point without a visible form: by a letter where there is one, else by its number in two,
four or eight hexadecimal digits. So a quoted text has characters only.

* `quoted`: a text between quotes;
* `escaped`: a text with no escapes but for its surrogates, as it is printed.
-/

namespace TrafficReplay.Text

/-- Whether a character has a visible form or is the space. -/
def isPrintable (c : Char) : Bool :=
  if c.toNat < 0x7f then 0x20 ≤ c.toNat else !inRanges unprintableRanges c

/-- The lower-case hexadecimal digit of a value below 16. -/
def hexDigit (n : Nat) : Char := if n < 10 then Char.ofNat (0x30 + n) else Char.ofNat (0x57 + n)

/-- The last `width` hexadecimal digits of a number. -/
def hexDigits : Nat → Nat → List Char
  | 0, _ => []
  | width + 1, n => hexDigits width (n / 16) ++ [hexDigit (n % 16)]

/-- A code point by its number, in two, four or eight digits. -/
def codeEscape (n : Nat) : List Char :=
  if n < 0x100 then '\\' :: 'x' :: hexDigits 2 n
  else if n < 0x10000 then '\\' :: 'u' :: hexDigits 4 n
  else '\\' :: 'U' :: hexDigits 8 n

/-- One character of a quoted text. -/
def quotedChar (quote c : Char) : List Char :=
  if c = quote ∨ c = '\\' then ['\\', c]
  else if c = '\n' then ['\\', 'n']
  else if c = '\r' then ['\\', 'r']
  else if c = '\t' then ['\\', 't']
  else if isPrintable c then [c]
  else codeEscape c.toNat

/-- One code point of a quoted text. -/
def quotedPoint (quote : Char) : CodePoint → List Char
  | .char c => quotedChar quote c
  | .surrogate n => codeEscape (CodePoint.surrogate n).toNat

/-- The quote to write around a text. -/
def quoteFor (s : List CodePoint) : Char :=
  if s.contains '\'' && !s.contains '"' then '"' else '\''

/-- A text between quotes, with escapes. -/
def quoted (t : Text) : String :=
  let q := quoteFor t.toList
  String.ofList (q :: t.toList.flatMap (quotedPoint q) ++ [q])

/-- A text as it is printed. -/
def escaped (t : Text) : String :=
  String.ofList <| t.toList.flatMap fun
    | .char c => [c]
    | .surrogate n => codeEscape (CodePoint.surrogate n).toNat

end TrafficReplay.Text
