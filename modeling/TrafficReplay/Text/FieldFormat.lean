import TrafficReplay.Number.Decimal
import TrafficReplay.Text.Digit

/-!
# Formats of fields

A field of a message template may say how its value is laid out. A format is written in this order,
and every part of it may be missing: a fill and an alignment, a sign, `z`, `#`, `0`, a width, a
separator of digit groups, a precision behind a point, and the code of a notation.

* `FieldFormat`, `FieldFormat.read`: a format and the reading of one;
* `FieldFormat.layOutText`, `FieldFormat.layOutInt`: a text and a whole number in a format.
-/

namespace TrafficReplay.Text

/-- Where a value stands in its field. -/
inductive Alignment
  | left
  | right
  | center
  /-- At the right, with the fill between a sign and the digits. -/
  | afterSign
  deriving DecidableEq, Repr

/-- The alignment that a character asks for. -/
def alignment? : Char → Option Alignment
  | '<' => some .left
  | '>' => some .right
  | '^' => some .center
  | '=' => some .afterSign
  | _ => none

/-- What is written in front of a number. -/
inductive SignStyle
  /-- A minus if it is negative. -/
  | negative
  /-- A minus or a plus. -/
  | always
  /-- A minus or a space. -/
  | space
  deriving DecidableEq, Repr

/-- The sign style that a character asks for. -/
def signStyle? : Char → Option SignStyle
  | '-' => some .negative
  | '+' => some .always
  | ' ' => some .space
  | _ => none

/-- What stands between groups of digits. -/
inductive Separator
  | comma
  | underscore
  deriving DecidableEq, Repr

/-- The character of a separator. -/
def Separator.char : Separator → Char
  | .comma => ','
  | .underscore => '_'

/-- What a value is. -/
inductive ValueKind
  | text
  | integer
  | truth
  deriving DecidableEq, Repr

/-- A kind of value as it is told in a message. -/
def ValueKind.name : ValueKind → String
  | .text => "str"
  | .integer => "int"
  | .truth => "bool"

/-- How a value is laid out. -/
structure FieldFormat where
  fill : Char
  alignment : Alignment
  sign : Option SignStyle
  /-- Whether a zero has no minus. -/
  plainZero : Bool
  /-- Whether the mark of a base or a last point is written. -/
  alternate : Bool
  width : Nat
  separator : Option Separator
  precision : Option Nat
  code : Char
  deriving DecidableEq, Repr

/-- Why a value has no layout in a format. -/
inductive FormatFault
  | numberTooLong
  | twoSeparators
  | noPrecision
  /-- More than one character where the code is expected. -/
  | malformed (format : String) (kind : ValueKind)
  | separatorWith (separator : Separator) (code : Char)
  | unknownCode (code : Char) (kind : ValueKind)
  | signInText
  | spaceInText
  | plainZeroInText
  | alternateInText
  | afterSignInText
  | precisionInInteger
  | plainZeroInInteger
  | signInCharacter
  | alternateInCharacter
  | precisionTooLarge
  /-- A number that is no machine word and so no code point. -/
  | codeTooLong
  | noCodePoint
  /-- An integer without a finite floating point number next to it. -/
  | tooLargeForReal
  deriving DecidableEq, Repr

/-- A character as it is told in a message, by its code point if it is not a visible ASCII one. -/
def toldChar (least greatest : Nat) (c : Char) : String :=
  if least ≤ c.toNat && c.toNat ≤ greatest then String.singleton c
  else "\\x" ++ String.ofList (Nat.toDigits 16 c.toNat)

/-- The wording of a fault. -/
def FormatFault.message : FormatFault → String
  | .numberTooLong => "Too many decimal digits in format string"
  | .twoSeparators => "Cannot specify both ',' and '_'."
  | .noPrecision => "Format specifier missing precision"
  | .malformed format kind =>
    "Invalid format specifier '" ++ format ++ "' for object of type '" ++ kind.name ++ "'"
  | .separatorWith s code =>
    "Cannot specify '" ++ String.singleton s.char ++ "' with '" ++ toldChar 33 127 code ++ "'."
  | .unknownCode code kind =>
    "Unknown format code '" ++ toldChar 33 127 code ++ "' for object of type '" ++ kind.name ++ "'"
  | .signInText => "Sign not allowed in string format specifier"
  | .spaceInText => "Space not allowed in string format specifier"
  | .plainZeroInText => "Negative zero coercion (z) not allowed in string format specifier"
  | .alternateInText => "Alternate form (#) not allowed in string format specifier"
  | .afterSignInText => "'=' alignment not allowed in string format specifier"
  | .precisionInInteger => "Precision not allowed in integer format specifier"
  | .plainZeroInInteger => "Negative zero coercion (z) not allowed in integer format specifier"
  | .signInCharacter => "Sign not allowed with integer format specifier 'c'"
  | .alternateInCharacter => "Alternate form (#) not allowed with integer format specifier 'c'"
  | .precisionTooLarge => "precision too big"
  | .codeTooLong => "Python int too large to convert to C long"
  | .noCodePoint => "%c arg not in range(0x110000)"
  | .tooLargeForReal => "int too large to convert to float"

namespace FieldFormat

/-! ### Reading -/

/-- The greatest width and precision. -/
def maxNumber : Nat := 0x7fffffffffffffff

/-- The number in front of a text, if it starts with a digit, and what follows. -/
def readNumber (s : List Char) : Except FormatFault (Option Nat × List Char) :=
  let isDigit (c : Char) := (digitValue? c).isSome
  let digits := (s.takeWhile isDigit).filterMap digitValue?
  if digits.isEmpty then .ok (none, s)
  else if maxNumber < digitsValue digits then .error .numberTooLong
  else .ok (some (digitsValue digits), s.dropWhile isDigit)

/-- The fill and the alignment in front of a text, if there are any, and what follows. -/
def readAlignment (s : List Char) : Option Char × Option Alignment × List Char :=
  match s with
  | [] => (none, none, [])
  | c :: s =>
    match s.head?.bind alignment?, alignment? c with
    | some a, _ => (some c, some a, s.tail)
    | none, some a => (none, some a, s)
    | none, none => (none, none, c :: s)

/-- The sign style in front of a text, if there is one, and what follows. -/
def readSign (s : List Char) : Option SignStyle × List Char :=
  match s.head?.bind signStyle? with
  | some x => (some x, s.tail)
  | none => (none, s)

/-- Whether a character is in front of a text, and what follows it. -/
def readFlag (c : Char) (s : List Char) : Bool × List Char :=
  if s.head? = some c then (true, s.tail) else (false, s)

/-- The separator in front of a text, if there is one, and what follows. -/
def readSeparator (s : List Char) : Except FormatFault (Option Separator × List Char) :=
  let (comma, s) := readFlag ',' s
  let (underscore, s) := readFlag '_' s
  if underscore && (comma || s.head? = some ',') then .error .twoSeparators
  else .ok (if comma then some .comma else if underscore then some .underscore else none, s)

/-- The precision in front of a text, if there is one, and what follows. -/
def readPrecision (s : List Char) : Except FormatFault (Option Nat × List Char) :=
  match s with
  | '.' :: s => do
    match ← readNumber s with
    | (none, _) => throw .noPrecision
    | found => return found
  | s => .ok (none, s)

/-- Whether digits may be grouped in the notation of a code. -/
def allowsSeparator (separator : Separator) (code : Char) : Bool :=
  "defgEGF%".toList.contains code || (separator = .underscore && "boxX".toList.contains code)

/-- Read a format for a value of a kind. Texts stand at the left of a field and numbers at the
right; a zero in front of the width fills a number with zeros behind its sign. -/
def read (kind : ValueKind) (text : List Char) : Except FormatFault FieldFormat := do
  let (fill, alignment, s) := readAlignment text
  let (sign, s) := readSign s
  let (plainZero, s) := readFlag 'z' s
  let (alternate, s) := readFlag '#' s
  let (zeros, s) := if fill.isSome then (false, s) else readFlag '0' s
  let (width, s) ← readNumber s
  let (separator, s) ← readSeparator s
  let (precision, s) ← readPrecision s
  let code ←
    match s with
    | [] => pure (if kind = .text then 's' else 'd')
    | [c] => pure c
    | _ => throw (.malformed (String.ofList text) kind)
  if let some x := separator then
    if !allowsSeparator x code then throw (.separatorWith x code)
  return {
    fill := if zeros then '0' else fill.getD ' '
    alignment := alignment.getD
      (if kind = .text then .left else if zeros then .afterSign else .right)
    sign, plainZero, alternate
    width := width.getD 0
    separator, precision, code }

/-! ### Layout -/

variable (f : FieldFormat)

/-- The fill on both sides of a value of some length. -/
def padding (length : Nat) : List Char × List Char :=
  let n := f.width - length
  let left := match f.alignment with
    | .left => 0
    | .center => n / 2
    | .right | .afterSign => n
  (List.replicate left f.fill, List.replicate (n - left) f.fill)

/-- A text in a format; the precision is the number of characters kept. -/
def layOutText (s : List Char) : Except FormatFault (List Char) :=
  if f.code != 's' then .error (.unknownCode f.code .text)
  else if f.sign = some .space then .error .spaceInText
  else if f.sign.isSome then .error .signInText
  else if f.plainZero then .error .plainZeroInText
  else if f.alternate then .error .alternateInText
  else if f.alignment = .afterSign then .error .afterSignInText
  else
    let s := s.take (f.precision.getD s.length)
    let (left, right) := f.padding s.length
    .ok (left ++ s ++ right)

/-- Digits, the last one first, in groups of a size, with zeros up to a least width. -/
def grouped (size : Nat) (separator : Char) : Nat → List Char → Nat → List Char
  | 0, _, _ => []
  | fuel + 1, digits, least =>
    let n := min size (max (max digits.length least) 1)
    let group := digits.take n ++ List.replicate (n - digits.length) '0'
    if (digits.drop n).isEmpty && least ≤ n then group
    else group ++ separator :: grouped size separator fuel (digits.drop n) (least - n - 1)

/-- Digits with zeros in front up to a least width, in groups if the format asks for them. -/
def groupDigits (digits : List Char) (least : Nat) : List Char :=
  match f.separator with
  | none => List.replicate (least - digits.length) '0' ++ digits
  | some x =>
    let size := if "boxX".toList.contains f.code then 4 else 3
    (grouped size x.char (digits.length + least + 1) digits.reverse least).reverse

/-- The sign of a number. -/
def signChars (negative : Bool) : List Char :=
  if negative then ['-']
  else match f.sign with
    | some .always => ['+']
    | some .space => [' ']
    | _ => []

/-- A number in a format: its sign, the mark of its base, its whole digits and what follows. -/
def layOutNumber (negative : Bool) (mark digits tail : List Char) : List Char :=
  let sign := f.signChars negative
  let others := sign.length + mark.length + tail.length
  let least := if f.fill = '0' && f.alignment = .afterSign then f.width - others else 0
  let digits := if digits.isEmpty then [] else f.groupDigits digits least
  let (left, right) := f.padding (others + digits.length)
  if f.alignment = .afterSign then sign ++ mark ++ left ++ digits ++ tail
  else left ++ sign ++ mark ++ digits ++ tail ++ right

/-- A code point in a format. -/
def layOutCodePoint (n : Int) : Except FormatFault (List Char) :=
  if f.sign.isSome then .error .signInCharacter
  else if f.alternate then .error .alternateInCharacter
  else if n < -(maxNumber : Int) - 1 || (maxNumber : Int) < n then .error .codeTooLong
  else if n < 0 || 0x10ffff < n then .error .noCodePoint
  else
    let c := if n.toNat.isValidChar then Char.ofNat n.toNat else '\ufffd'
    .ok (f.layOutNumber false [] [] [c])

/-- The base of a code, and the letter of its mark. -/
def base : Char → Nat × Option Char
  | 'b' => (2, some 'b')
  | 'o' => (8, some 'o')
  | 'x' => (16, some 'x')
  | 'X' => (16, some 'X')
  | _ => (10, none)

/-- A whole number in the digits of a base. -/
def layOutWhole (n : Int) : Except FormatFault (List Char) :=
  if f.precision.isSome then .error .precisionInInteger
  else if f.plainZero then .error .plainZeroInInteger
  else if f.code = 'c' then f.layOutCodePoint n
  else
    let (b, letter) := base f.code
    let mark := match letter with
      | some c => if f.alternate then ['0', c] else []
      | none => []
    let digits := Nat.toDigits b n.natAbs
    .ok (f.layOutNumber (n < 0) mark (if f.code = 'X' then digits.map Char.toUpper else digits) [])

/-- The places behind the point when a format does not give them. -/
def defaultPlaces : Nat := 6

/-- The greatest number of places. -/
def maxPlaces : Nat := 0x7fffffff

/-- One hundred. -/
def hundred : Binary64 := .ofScaled false 100 0

/-- The magnitude of a floating point number in the notation of a code. -/
def realText (x : Binary64) (places : Nat) : String :=
  match f.code.toLower with
  | 'e' => x.exponential (if f.alternate then Binary64.withPoint else id) places
  | 'g' => x.general (if f.alternate then Binary64.withPoint else Binary64.trimPlaces) places
  | _ =>
    let s := x.fixed places
    if f.alternate && x.finite?.isSome then Binary64.withPoint s else s

/-- A whole number as a floating point number. -/
def layOutReal (n : Int) : Except FormatFault (List Char) :=
  match Binary64.ofInt? n.natAbs with
  | none => .error .tooLargeForReal
  | some x =>
    let places := f.precision.getD defaultPlaces
    if maxPlaces < places then .error .precisionTooLarge
    else
      let percent := f.code = '%'
      let s := (f.realText (if percent then x.mul hundred else x) places).toList
      let s := if f.code.isUpper then s.map Char.toUpper else s
      let tail := s.dropWhile Char.isDigit ++ if percent then ['%'] else []
      .ok (f.layOutNumber (n < 0) [] (s.takeWhile Char.isDigit) tail)

/-- A whole number, or a truth value as one, in a format. -/
def layOutInt (kind : ValueKind) (n : Int) : Except FormatFault (List Char) :=
  if "bcdoxXn".toList.contains f.code then f.layOutWhole n
  else if "eEfFgG%".toList.contains f.code then f.layOutReal n
  else .error (.unknownCode f.code kind)

end FieldFormat

end TrafficReplay.Text
