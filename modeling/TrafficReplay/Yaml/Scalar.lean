import TrafficReplay.Yaml.Token

/-!
# Scalars of a YAML text

Reading a scalar in each of its styles: plain, between quotes, and as an indented block. A scalar
over several lines is folded: a single line end is read as a space, and of several ones the first
is dropped.
-/

namespace TrafficReplay.Yaml.Scan

/-- The text that stands for some line ends: the first one is dropped if others follow, and is a
space if none does; a separator of lines or paragraphs is kept. -/
def fold (first rest : List Char) : List Char :=
  (if first != ['\n'] then first else if rest.isEmpty then [' '] else []) ++ rest

/-! ### Plain scalars -/

/-- Whether a character belongs to the structure of a flow collection. -/
def isFlowIndicator (c : Char) : Bool := c = ',' || c = '[' || c = ']' || c = '{' || c = '}'

/-- The part of a plain scalar up to a space, a line end or an indicator. -/
def plainRun (inFlow : Bool) : List Char → List Char
  | [] => []
  | c :: s =>
    let after := s.headD endMark
    if isSeparator c then []
    else if c = ':' && (isSeparator after || (inFlow && isFlowIndicator after)) then []
    else if inFlow && (isFlowIndicator c || c = '?') then []
    else c :: plainRun inFlow s

/-- Line ends and spaces in front of a line that goes on; `none` if a document ends there. -/
def readPlainBreaks : Nat → Scan (Option (List Char))
  | 0 => return some []
  | fuel + 1 => do
    skipSpaces
    if !isBreak (← next) then return some []
    let first ← readBreak
    if (← get).atSeparator then return none
    return (← readPlainBreaks fuel).map (first ++ ·)

/-- The space between two parts of a plain scalar, empty if the scalar ends, and whether it holds a
line end. -/
def readPlainSpace : Scan (List Char × Bool) := do
  let spaces ← readWhile (· = ' ')
  if !isBreak (← next) then return (spaces, false)
  let first ← readBreak
  let c ← get
  if c.atSeparator then return ([], true)
  match ← readPlainBreaks (c.rest.length + 1) with
  | none => return ([], true)
  | some rest => return (fold first rest, true)

/-- The parts of a plain scalar whose continuation lines are indented by `indent`, and whether the
scalar ends at the beginning of a line. -/
def readPlainParts (inFlow : Bool) (indent : Int) :
    Nat → List Char → Bool → Scan (List Char × Bool)
  | 0, _, atLineStart => return ([], atLineStart)
  | fuel + 1, space, atLineStart => do
    let c ← get
    if c.next = '#' then return ([], atLineStart)
    let part := plainRun inFlow c.rest
    if part.isEmpty then return ([], atLineStart)
    skip part.length
    let (space', broken) ← readPlainSpace
    let c ← get
    if space'.isEmpty || c.next = '#' || (!inFlow && (c.column : Int) < indent) then
      return (space ++ part, broken)
    let (more, atLineStart') ← readPlainParts inFlow indent fuel space' broken
    return (space ++ part ++ more, atLineStart')

/-- Read a plain scalar; also whether it ends at the beginning of a line. -/
def readPlain (inFlow : Bool) (indent : Int) : Scan (Text × Bool) := do
  let (s, atLineStart) ← readPlainParts inFlow indent ((← get).rest.length + 1) [] false
  return (.ofChars s, atLineStart)

/-! ### Quoted scalars -/

/-- The characters that are escaped by a letter or by themselves. -/
def escapes : List (Char × Char) :=
  [('0', '\x00'), ('a', '\x07'), ('b', '\x08'), ('t', '\t'), ('\t', '\t'), ('n', '\n'),
   ('v', '\x0b'), ('f', '\x0c'), ('r', '\r'), ('e', '\x1b'), (' ', ' '), ('"', '"'), ('\\', '\\'),
   ('/', '/'), ('N', '\u0085'), ('_', '\u00a0'), ('L', '\u2028'), ('P', '\u2029')]

/-- The number of hexadecimal digits behind an escape letter. -/
def escapeWidth? : Char → Option Nat
  | 'x' => some 2
  | 'u' => some 4
  | 'U' => some 8
  | _ => none

/-- The greatest code point. -/
def maxCodePoint : Nat := 0x10ffff

/-- Line ends inside quotes and the white space around them. -/
def readQuotedBreaks : Nat → Scan (List Char)
  | 0 => return []
  | fuel + 1 => do
    if (← get).atSeparator then fail .separatorInQuote
    let _ ← readWhile fun c => c = ' ' || c = '\t'
    if !isBreak (← next) then return []
    let first ← readBreak
    return first ++ (← readQuotedBreaks fuel)

/-- The white space between two parts of a quoted scalar. -/
def readQuotedSpace : Scan (List Char) := do
  let spaces ← readWhile fun c => c = ' ' || c = '\t'
  let c ← get
  if c.next = endMark then fail .unclosedQuote
  if !isBreak c.next then return spaces
  let first ← readBreak
  return fold first (← readQuotedBreaks (c.rest.length + 1))

/-- Read what is escaped by a backslash. An escape by number may be a surrogate, also one of two
that would stand for a character in other encodings. -/
def readEscape (fuel : Nat) : Scan (List CodePoint) := do
  skip 1
  let c ← next
  match escapes.lookup c, escapeWidth? c with
  | some e, _ => do
    skip 1
    return [.char e]
  | none, some width => do
    skip 1
    let digits := (← get).rest.take width
    if digits.length != width || !digits.all isHexDigit then fail .malformedEscape
    let code := hexNumber digits
    if maxCodePoint < code then fail (.codePointTooLarge code)
    skip width
    return [.ofNat code]
  | none, none => do
    if !isBreak c then fail (.unknownEscape c)
    let _ ← readBreak
    return (← readQuotedBreaks fuel).map .char

/-- Whether a character ends a run of ordinary characters inside quotes. -/
def endsQuotedRun (c : Char) : Bool := c = '\'' || c = '"' || c = '\\' || isSeparator c

/-- A part of a quoted scalar up to white space or the closing quote. -/
def readQuotedPart (double : Bool) : Nat → Scan (List CodePoint)
  | 0 => return []
  | fuel + 1 => do
    let run := (← readWhile fun c => !endsQuotedRun c).map CodePoint.char
    let c ← get
    if !double && c.next = '\'' && c.ahead 1 = '\'' then do
      skip 2
      return run ++ .char '\'' :: (← readQuotedPart double fuel)
    else if (double && c.next = '\'') || (!double && (c.next = '"' || c.next = '\\')) then do
      skip 1
      return run ++ .char c.next :: (← readQuotedPart double fuel)
    else if double && c.next = '\\' then do
      let escaped ← readEscape fuel
      return run ++ escaped ++ (← readQuotedPart double fuel)
    else return run

/-- The parts of a quoted scalar up to the closing quote. -/
def readQuotedParts (double : Bool) : Nat → Scan (List CodePoint)
  | 0 => return []
  | fuel + 1 => do
    let part ← readQuotedPart double (fuel + 1)
    if (← next) = (if double then '"' else '\'') then return part
    let space := (← readQuotedSpace).map CodePoint.char
    return part ++ space ++ (← readQuotedParts double fuel)

/-- Read a quoted scalar. -/
def readQuoted (double : Bool) : Scan Text := do
  let fuel := (← get).rest.length + 1
  skip 1
  let s ← readQuotedParts double fuel
  skip 1
  return .ofList s

/-! ### Block scalars -/

/-- What becomes of the line ends behind a block scalar: one is kept, none is, or all are. -/
inductive Chomping
  | clip
  | strip
  | keep
  deriving DecidableEq, Repr

/-- The chomping of an indicator. -/
def chomping? : Char → Option Chomping
  | '+' => some .keep
  | '-' => some .strip
  | _ => none

/-- Read a chomping indicator, if there is one. -/
def readChomping? : Scan (Option Chomping) := do
  match chomping? (← next) with
  | some c => do
    skip 1
    return some c
  | none => return none

/-- Read an indentation indicator, if there is one. -/
def readIncrement? : Scan (Option Nat) := do
  let c ← next
  if !c.isDigit then return none
  if c = '0' then fail .malformedBlockHeader
  skip 1
  return some (c.toNat - 0x30)

/-- Read the indicators of a block scalar, in either order. -/
def readBlockHeader : Scan (Chomping × Option Nat) := do
  let header ←
    match ← readChomping? with
    | some c => pure (c, ← readIncrement?)
    | none =>
      match ← readIncrement? with
      | some n => pure ((← readChomping?).getD .clip, some n)
      | none => pure (.clip, none)
  if !endsWord (← next) then fail .malformedBlockHeader
  finishLine .malformedBlockHeader
  return header

/-- Empty lines in front of a block scalar whose indentation is not given, and the widest
indentation among them and the first line. -/
def readBlockIndent : Nat → Nat → Scan (List Char × Nat)
  | 0, widest => return ([], widest)
  | fuel + 1, widest => do
    let c ← next
    if c = ' ' then do
      skip 1
      readBlockIndent fuel (max widest (← get).column)
    else if isBreak c then do
      let first ← readBreak
      let (rest, widest) ← readBlockIndent fuel widest
      return (first ++ rest, widest)
    else return ([], widest)

/-- Move over spaces up to a column. -/
def skipIndent (indent : Nat) : Scan Unit := do
  let c ← get
  skip ((c.rest.take (indent - c.column)).takeWhile (· = ' ')).length

/-- Empty lines of a block scalar. -/
def readBlockBreaks (indent : Nat) : Nat → Scan (List Char)
  | 0 => return []
  | fuel + 1 => do
    skipIndent indent
    if !isBreak (← next) then return []
    let first ← readBreak
    return first ++ (← readBlockBreaks indent fuel)

/-- Whether a line of a block scalar starts with white space, so that it is not folded. -/
def isBlankStart (c : Char) : Bool := c = ' ' || c = '\t'

/-- The lines of a block scalar, given the empty lines in front of the next one. The answer also
has the last line end and the empty lines behind it. -/
def readBlockLines (folded : Bool) (indent : Nat) :
    Nat → List Char → Scan (List Char × List Char × List Char)
  | 0, breaks => return ([], [], breaks)
  | fuel + 1, breaks => do
    let c ← get
    let line ← readWhile fun c => !endsLine c
    let lineEnd ← readBreak
    let breaks' ← readBlockBreaks indent (c.rest.length + 1)
    let d ← get
    if d.column = indent && d.next != endMark then do
      let between :=
        if folded && lineEnd == ['\n'] && !isBlankStart c.next && !isBlankStart d.next then
          if breaks'.isEmpty then [' '] else []
        else lineEnd
      let (more, tail) ← readBlockLines folded indent fuel breaks'
      return (breaks ++ line ++ between ++ more, tail)
    else return (breaks ++ line, lineEnd, breaks')

/-- Read a block scalar inside a collection that is indented by `outer`. -/
def readBlock (folded : Bool) (outer : Int) : Scan Text := do
  let fuel := (← get).rest.length + 1
  skip 1
  let (chomping, increment) ← readBlockHeader
  let least := max 1 (outer + 1).toNat
  let (breaks, indent) ←
    match increment with
    | none => do
      let (breaks, widest) ← readBlockIndent fuel 0
      pure (breaks, max least widest)
    | some n => do
      let indent := least + n - 1
      pure (← readBlockBreaks indent fuel, indent)
  let c ← get
  let (body, lineEnd, breaks) ←
    if c.column = indent && c.next != endMark then readBlockLines folded indent fuel breaks
    else pure ([], [], breaks)
  return .ofChars <| body ++
    match chomping with
    | .strip => []
    | .clip => lineEnd
    | .keep => lineEnd ++ breaks

end TrafficReplay.Yaml.Scan
