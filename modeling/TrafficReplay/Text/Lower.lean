import TrafficReplay.Text.Basic
import TrafficReplay.Text.Ranges
import TrafficReplay.Text.CaseTable

/-!
# Lower case

Full lower-casing of a text. Two characters are not mapped one to one: the capital I with a dot
becomes an i and a combining dot, and a capital sigma at the end of a word takes its final form.
A surrogate has no case and ends a word.
-/

namespace TrafficReplay.Text

/-- Whether a character is a letter with case, for the search of a neighbour. -/
def isCased (c : Char) : Bool := inRanges casedRanges c

/-- Whether a character is passed over in the search of a neighbour. -/
def isCaseIgnorable (c : Char) : Bool := inRanges caseIgnorableRanges c

/-- The lower-case form of a character that has a single one, else the character. -/
def lowerChar (c : Char) : Char :=
  if c.toNat < 0x80 then
    if 0x41 ≤ c.toNat ∧ c.toNat ≤ 0x5a then Char.ofNat (c.toNat + 32) else c
  else
    match lowerRuns.find? fun r =>
        r.1 ≤ c.toNat && c.toNat ≤ r.2.1 && (c.toNat - r.1) % r.2.2.1 == 0 with
    | some r => Char.ofNat (c.toNat + r.2.2.2).toNat
    | none => c

/-- The lower-case form of a code point that has a single one, else the code point. -/
def lowerPoint : CodePoint → CodePoint
  | .char c => lowerChar c
  | .surrogate n => .surrogate n

/-- Whether the nearest code point that is not passed over is a letter with case. -/
def meetsCased (s : List CodePoint) : Bool :=
  match s.dropWhile fun c => c.char?.any isCaseIgnorable with
  | [] => false
  | c :: _ => c.char?.any isCased

/-- Lower-case a text, given the code points before it, the nearest first. -/
def lowerAfter (before : List CodePoint) : List CodePoint → List CodePoint
  | [] => []
  | c :: s =>
    (if c = 'İ' then [.char 'i', .char '\u0307']
     else if c = 'Σ' then [.char (if meetsCased before && !meetsCased s then 'ς' else 'σ')]
     else [lowerPoint c]) ++ lowerAfter (c :: before) s

/-- The lower-case form of some code points. -/
def lower (s : List CodePoint) : List CodePoint := lowerAfter [] s

/-- The lower-case form of a text. -/
def lowerText (t : Text) : Text := .ofList (lower t.toList)

end TrafficReplay.Text
