import TrafficReplay.Yaml.Fault

/-!
# A place in a YAML text

A cursor holds the characters that are still to be read and counts lines and columns. Past the last
character it shows the null character, which no text holds.

* `Cursor.step`: move over one character;
* `Scan`: computations that move a cursor and may fail at a place.
-/

namespace TrafficReplay.Yaml

/-- The null character, which stands for the end of the text. -/
def endMark : Char := '\x00'

/-- Whether a character ends a line. -/
def isBreak (c : Char) : Bool :=
  c = '\n' || c = '\r' || c = '\u0085' || c = '\u2028' || c = '\u2029'

/-- Whether a line ends in front of a character. -/
def endsLine (c : Char) : Bool := c = endMark || isBreak c

/-- Whether a directive, a tag or a header ends in front of a character. -/
def endsWord (c : Char) : Bool := c = ' ' || endsLine c

/-- Whether an indicator in front of a character stands alone. -/
def isSeparator (c : Char) : Bool := c = '\t' || endsWord c

/-- Whether a character may stand in an anchor, a directive name or a tag handle. -/
def isNameChar (c : Char) : Bool := c.isAlphanum || c = '-' || c = '_'

/-- Whether a character is a hexadecimal digit. -/
def isHexDigit (c : Char) : Bool :=
  c.isDigit || ('a' ≤ c && c ≤ 'f') || ('A' ≤ c && c ≤ 'F')

/-- A place in a text. Lines are counted from one, columns from zero. -/
structure Cursor where
  rest : List Char
  index : Nat
  line : Nat
  column : Nat

namespace Cursor

/-- The beginning of a text. -/
def start (s : List Char) : Cursor := ⟨s, 0, 1, 0⟩

/-- The character `k` places ahead. -/
def ahead (c : Cursor) (k : Nat) : Char := (c.rest.drop k).headD endMark

/-- The next character. -/
def next (c : Cursor) : Char := c.rest.headD endMark

/-- Move over one character. The byte order mark takes no column. -/
def step (c : Cursor) : Cursor :=
  match c.rest with
  | [] => c
  | a :: rest =>
    if a = '\r' && rest.headD endMark = '\n' then ⟨rest, c.index + 1, c.line, c.column + 1⟩
    else if isBreak a then ⟨rest, c.index + 1, c.line + 1, 0⟩
    else if a = '\ufeff' then ⟨rest, c.index + 1, c.line, c.column⟩
    else ⟨rest, c.index + 1, c.line, c.column + 1⟩

/-- Move over some characters. -/
def steps : Nat → Cursor → Cursor
  | 0, c => c
  | n + 1, c => steps n c.step

/-- Whether a line here separates documents: three dashes or three dots that stand alone. -/
def atSeparator (c : Cursor) : Bool :=
  (c.rest.take 3 == ['-', '-', '-'] || c.rest.take 3 == ['.', '.', '.']) && isSeparator (c.ahead 3)

end Cursor

/-! ### Scanning -/

/-- A fault and the index of the character where it was met. -/
structure Failure where
  fault : Fault
  index : Nat
  deriving DecidableEq, Repr

/-- Computations that move a cursor. -/
abbrev Scan := StateT Cursor (Except Failure)

namespace Scan

/-- Fail here. -/
def fail {α : Type} (f : Fault) : Scan α := fun c => .error ⟨f, c.index⟩

/-- The next character. -/
def next : Scan Char := return (← get).next

/-- The character `k` places ahead. -/
def ahead (k : Nat) : Scan Char := return (← get).ahead k

/-- Move over some characters. -/
def skip (n : Nat) : Scan Unit := modify (Cursor.steps n)

/-- Read some characters. -/
def read (n : Nat) : Scan (List Char) := do
  let s := (← get).rest.take n
  skip n
  return s

/-- Read the characters in front that pass a test. -/
def readWhile (p : Char → Bool) : Scan (List Char) := do
  let s := (← get).rest.takeWhile p
  skip s.length
  return s

/-- Move over spaces. -/
def skipSpaces : Scan Unit := do
  let _ ← readWhile (· = ' ')

/-- Move to the end of the line if a comment starts here. -/
def skipComment : Scan Unit := do
  if (← next) = '#' then
    let _ ← readWhile fun c => !endsLine c

/-- Read a line end, if there is one. The separators of lines and paragraphs are kept, all others
are read as `\n`. -/
def readBreak : Scan (List Char) := do
  let c ← get
  let a := c.next
  if a = '\r' || a = '\n' || a = '\u0085' then
    skip (if a = '\r' && c.ahead 1 = '\n' then 2 else 1)
    return ['\n']
  else if a = '\u2028' || a = '\u2029' then
    skip 1
    return [a]
  else return []

/-- Move over the rest of a line that may hold spaces and a comment only. -/
def finishLine (f : Fault) : Scan Unit := do
  skipSpaces
  skipComment
  if !endsLine (← next) then fail f
  let _ ← readBreak

end Scan

end TrafficReplay.Yaml
