import TrafficReplay.Yaml.Scalar
import TrafficReplay.Text.Stream

/-!
# From a YAML text to tokens

The lexer follows the indentation of block collections and remembers where a simple key may have
started; when a colon follows, the key token is put in front of it. A reader asks for one token at
a time, so a fault shows only when the reader gets to the token behind it.

* `Source`: a text, whole or delivered in blocks;
* `Lexer`, `Lexer.fetch`: the state of the lexer and the reading of the next token;
* `tokens`: the tokens that can be had from a source, and the fault behind them.
-/

namespace TrafficReplay.Yaml

/-! ### Sources -/

/-- The characters of a text that can be had, and the fault met by going on. -/
structure Source where
  chars : List Char
  fault : Option Fault

/-- Whether a character may occur in a document. -/
def isAllowed (c : Char) : Bool :=
  c = '\t' || c = '\n' || c = '\r' || c = '\u0085' ||
    Text.inRanges [(0x20, 0x7e), (0xa0, 0xd7ff), (0xe000, 0xfffd), (0x10000, 0x10ffff)] c

/-- The first character of a text that may not occur in a document. -/
def unprintable? (s : List Char) : Option Fault :=
  (s.find? fun c => !isAllowed c).map .unprintable

/-- A text that is there as a whole. -/
def Source.ofText (s : String) : Source :=
  match unprintable? s.toList with
  | some f => ⟨[], some f⟩
  | none => ⟨s.toList, none⟩

/-- The blocks of a text up to the first one that holds a character that may not occur. The first
block is `size` characters long. -/
def allowedBlocks : Nat → Nat → List Char → List Char × Option Fault
  | 0, _, _ => ([], none)
  | fuel + 1, size, s =>
    if s.isEmpty then ([], none)
    else
      match unprintable? (s.take size) with
      | some f => ([], some f)
      | none =>
        let (rest, f) := allowedBlocks fuel Text.FileText.blockSize (s.drop size)
        (s.take size ++ rest, f)

/-- A text that is read from a file. The first two blocks are read together. -/
def Source.ofFile (t : Text.FileText) : Source :=
  let head := 2 * Text.FileText.blockSize
  match t.fault with
  | some f =>
    if t.chars.length < head then ⟨[], some (.undecodable f)⟩
    else
      let (s, g) := allowedBlocks (t.chars.length + 1) head t.chars
      ⟨s, some (g.getD (.undecodable f))⟩
  | none =>
    let (s, g) := allowedBlocks (t.chars.length + 1) head t.chars
    ⟨s, g⟩

/-! ### State -/

/-- A place where a simple key may have started. -/
structure PendingKey where
  /-- The number of the token that would be the key. -/
  number : Nat
  /-- Whether no other token may stand here. -/
  required : Bool
  index : Nat
  line : Nat
  column : Nat
  deriving DecidableEq, Repr

/-- The state of the lexer. -/
structure Lexer where
  cursor : Cursor
  /-- The tokens found so far, the newest first. -/
  found : List Token
  /-- The number of tokens found. -/
  count : Nat
  /-- How many flow collections are open. -/
  flowLevel : Int
  /-- The indentation of the innermost block collection. -/
  indent : Int
  /-- The indentations of the block collections around it. -/
  outer : List Int
  /-- Whether a simple key may start here. -/
  keyAllowed : Bool
  /-- The pending simple keys by flow level. -/
  pending : List (Int × PendingKey)
  done : Bool

namespace Lexer

/-- The state at the beginning of a text. -/
def start (s : List Char) : Lexer where
  cursor := .start s
  found := [⟨.streamStart, 1⟩]
  count := 1
  flowLevel := 0
  indent := -1
  outer := []
  keyAllowed := true
  pending := []
  done := false

/-- Whether the cursor is inside a flow collection. -/
def inFlow (s : Lexer) : Bool := s.flowLevel != 0

/-- The longest simple key, in characters. -/
def maxKeyLength : Nat := 1024

/-- Whether a pending key is too far back to become one. -/
def isStale (s : Lexer) (k : PendingKey) : Bool :=
  k.line != s.cursor.line || maxKeyLength < s.cursor.index - k.index

end Lexer

/-- Computations on the state of the lexer. -/
abbrev Lex := StateT Lexer (Except Failure)

namespace Lex

/-- Move the cursor. -/
def scan {α : Type} (x : Scan α) : Lex α := fun s =>
  (x s.cursor).map fun (a, c) => (a, { s with cursor := c })

/-- Fail here. -/
def fail {α : Type} (f : Fault) : Lex α := scan (Scan.fail f)

/-- Add a token that starts on a line. -/
def emitAt (line : Nat) (kind : Token.Kind) : Lex Unit :=
  modify fun s => { s with found := ⟨kind, line⟩ :: s.found, count := s.count + 1 }

/-- Add a token that starts here. -/
def emit (kind : Token.Kind) : Lex Unit := do emitAt (← get).cursor.line kind

/-- Put a token in front of the one with a number. -/
def insertAt (number line : Nat) (kind : Token.Kind) : Lex Unit :=
  modify fun s =>
    let later := s.count - number
    { s with
      found := s.found.take later ++ ⟨kind, line⟩ :: s.found.drop later
      count := s.count + 1 }

/-- Say whether a simple key may start after this token. -/
def allowKey (b : Bool) : Lex Unit := modify fun s => { s with keyAllowed := b }

/-! ### Simple keys -/

/-- Forget the pending keys that are too far back; a required one is missed. -/
def dropStaleKeys : Lex Unit := do
  let s ← get
  if s.pending.any fun (_, k) => s.isStale k && k.required then fail .missingColon
  set { s with pending := s.pending.filter fun (_, k) => !s.isStale k }

/-- Forget the pending key of this flow level; a required one is missed. -/
def dropKey : Lex Unit := do
  let s ← get
  match s.pending.lookup s.flowLevel with
  | none => return
  | some k =>
    if k.required then fail .missingColon
    set { s with pending := s.pending.filter fun (l, _) => l != s.flowLevel }

/-- Remember that a simple key may start here. -/
def markKey : Lex Unit := do
  if (← get).keyAllowed then
    dropKey
    modify fun s =>
      let key : PendingKey :=
        { number := s.count
          required := !s.inFlow && s.indent == s.cursor.column
          index := s.cursor.index
          line := s.cursor.line
          column := s.cursor.column }
      { s with pending := (s.flowLevel, key) :: s.pending }

/-! ### Indentation -/

/-- The indentations left after closing the collections that are indented by more than `column`,
and how many of them are closed. -/
def closeDeeper (column : Int) : Int → List Int → Int × List Int × Nat
  | indent, [] => (indent, [], 0)
  | indent, i :: outer =>
    if column < indent then
      let (j, outer, n) := closeDeeper column i outer
      (j, outer, n + 1)
    else (indent, i :: outer, 0)

/-- Close the block collections that are indented by more than `column`. -/
def unwind (column : Int) : Lex Unit :=
  modify fun s =>
    if s.inFlow then s
    else
      let (indent, outer, n) := closeDeeper column s.indent s.outer
      { s with
        indent := indent
        outer := outer
        found := List.replicate n ⟨.blockEnd, s.cursor.line⟩ ++ s.found
        count := s.count + n }

/-- Open a block collection at a column, unless one is open there; the answer is whether it was
opened. -/
def openAt (column : Nat) : Lex Bool := do
  let s ← get
  if s.indent < column then
    set { s with indent := column, outer := s.indent :: s.outer }
    return true
  else return false

/-! ### One token -/

/-- A token of one character or more at the cursor. -/
def indicator (kind : Token.Kind) (length : Nat) : Lex Unit := do
  emit kind
  scan (Scan.skip length)

/-- A token that is read, where a simple key may start. -/
def nodeToken (x : Scan Token.Kind) : Lex Unit := do
  markKey
  allowKey false
  let line := (← get).cursor.line
  emitAt line (← scan x)

/-- The end of the text. -/
def fetchEnd : Lex Unit := do
  unwind (-1)
  dropKey
  allowKey false
  emit .streamEnd
  modify fun s => { s with pending := [], done := true }

/-- A directive. -/
def fetchDirective : Lex Unit := do
  unwind (-1)
  dropKey
  allowKey false
  let line := (← get).cursor.line
  emitAt line (.directive (← scan Scan.readDirective))

/-- The beginning or the end of a document. -/
def fetchDocumentMark (kind : Token.Kind) : Lex Unit := do
  unwind (-1)
  dropKey
  allowKey false
  indicator kind 3

/-- The opening bracket of a flow collection. -/
def fetchFlowStart (kind : Token.Kind) : Lex Unit := do
  markKey
  modify fun s => { s with flowLevel := s.flowLevel + 1 }
  allowKey true
  indicator kind 1

/-- The closing bracket of a flow collection. -/
def fetchFlowEnd (kind : Token.Kind) : Lex Unit := do
  dropKey
  modify fun s => { s with flowLevel := s.flowLevel - 1 }
  allowKey false
  indicator kind 1

/-- The comma of a flow collection. -/
def fetchFlowEntry : Lex Unit := do
  allowKey true
  dropKey
  indicator .flowEntry 1

/-- Open a block collection for an indicator here, if keys may start. -/
def openBlock (kind : Token.Kind) (f : Fault) : Lex Unit := do
  let s ← get
  if !s.inFlow then
    if !s.keyAllowed then fail f
    if ← openAt s.cursor.column then emit kind

/-- The dash of a block sequence. -/
def fetchBlockEntry : Lex Unit := do
  openBlock .blockSequenceStart .misplacedEntry
  allowKey true
  dropKey
  indicator .blockEntry 1

/-- The question mark of a key. -/
def fetchKey : Lex Unit := do
  openBlock .blockMappingStart .misplacedKey
  allowKey !(← get).inFlow
  dropKey
  indicator .key 1

/-- The colon of a value. The pending key of this flow level becomes a key. -/
def fetchValue : Lex Unit := do
  let s ← get
  match s.pending.lookup s.flowLevel with
  | some k => do
    set { s with pending := s.pending.filter fun (l, _) => l != s.flowLevel }
    insertAt k.number k.line .key
    if !s.inFlow then
      if ← openAt k.column then insertAt k.number k.line .blockMappingStart
    allowKey false
  | none => do
    openBlock .blockMappingStart .misplacedValue
    allowKey !s.inFlow
    dropKey
  indicator .value 1

/-- A block scalar. -/
def fetchBlockScalar (folded : Bool) : Lex Unit := do
  allowKey true
  dropKey
  let s ← get
  emitAt s.cursor.line (.scalar (← scan (Scan.readBlock folded s.indent)))

/-- A plain scalar. -/
def fetchPlain : Lex Unit := do
  markKey
  let s ← get
  let (text, atLineStart) ← scan (Scan.readPlain s.inFlow (s.indent + 1))
  allowKey atLineStart
  emitAt s.cursor.line (.scalar text)

/-- Move over spaces, comments and line ends. In a block collection a key may start after a line
end. -/
def skipToToken : Nat → Lex Unit
  | 0 => return
  | fuel + 1 => do
    scan Scan.skipSpaces
    scan Scan.skipComment
    if !(← scan Scan.readBreak).isEmpty then do
      if !(← get).inFlow then allowKey true
      skipToToken fuel

/-- Whether a plain scalar starts at the cursor. -/
def atPlain (s : Lexer) : Bool :=
  let c := s.cursor.next
  !(isSeparator c || "-?:,[]\x7b\x7d#&*!|>'\"%@`".toList.contains c) ||
    (!isSeparator (s.cursor.ahead 1) && (c = '-' || (!s.inFlow && (c = '?' || c = ':'))))

/-- Read what starts at the cursor. -/
def fetchHere : Lex Unit := do
  let s ← get
  let c := s.cursor.next
  let atStart := s.cursor.column = 0
  let alone := isSeparator (s.cursor.ahead 1)
  if c = endMark then fetchEnd
  else if c = '%' && atStart then fetchDirective
  else if c = '-' && atStart && s.cursor.atSeparator then fetchDocumentMark .documentStart
  else if c = '.' && atStart && s.cursor.atSeparator then fetchDocumentMark .documentEnd
  else if c = '[' then fetchFlowStart .flowSequenceStart
  else if c = '{' then fetchFlowStart .flowMappingStart
  else if c = ']' then fetchFlowEnd .flowSequenceEnd
  else if c = '}' then fetchFlowEnd .flowMappingEnd
  else if c = ',' then fetchFlowEntry
  else if c = '-' && alone then fetchBlockEntry
  else if c = '?' && (s.inFlow || alone) then fetchKey
  else if c = ':' && (s.inFlow || alone) then fetchValue
  else if c = '*' then nodeToken (.alias <$> Scan.readName)
  else if c = '&' then nodeToken (.anchor <$> Scan.readName)
  else if c = '!' then nodeToken (.tag <$> Scan.readTag)
  else if c = '|' && !s.inFlow then fetchBlockScalar false
  else if c = '>' && !s.inFlow then fetchBlockScalar true
  else if c = '\'' then nodeToken (.scalar <$> Scan.readQuoted false)
  else if c = '"' then nodeToken (.scalar <$> Scan.readQuoted true)
  else if atPlain s then fetchPlain
  else fail (.noToken c)

/-- Fail if the next block of the source cannot be had and is needed. -/
def needSource (fault : Option Fault) : Lex Unit := do
  match fault with
  | some f => if (← get).cursor.rest.length ≤ 1 then fail f
  | none => return

/-- Read the next token, and those that have to stand in front of it. -/
def fetch (fault : Option Fault) : Lex Unit := do
  let c := (← get).cursor
  if c.index = 0 && c.next = '\ufeff' then scan (Scan.skip 1)
  skipToToken (c.rest.length + 1)
  dropStaleKeys
  unwind (← get).cursor.column
  fetchHere
  needSource fault
  if !(← get).done then dropStaleKeys

end Lex

/-! ### All tokens -/

/-- Items handed on one by one, and the fault met by asking for one more. -/
structure Feed (α : Type) where
  items : List α
  fault : Option Fault

namespace Lexer

/-- The number of tokens that do not depend on what follows: a pending key may still get a key
token put in front of it. -/
def settled (s : Lexer) : Nat := s.pending.foldl (fun n (_, k) => min n k.number) s.count

/-- The fault of a failure: that of the source, if the source has ended there. -/
def faultOf (source : Source) (e : Failure) : Fault :=
  match source.fault with
  | some f => if source.chars.length ≤ e.index + 1 then f else e.fault
  | none => e.fault

/-- The tokens from a state on. -/
def run (source : Source) : Nat → Lexer → Feed Token
  | 0, s => ⟨s.found.reverse, none⟩
  | fuel + 1, s =>
    if s.done then ⟨s.found.reverse, none⟩
    else
      match Lex.fetch source.fault s with
      | .ok (_, s) => run source fuel s
      | .error e => ⟨s.found.reverse.take s.settled, some (faultOf source e)⟩

end Lexer

/-- The tokens of a source. -/
def tokens (source : Source) : Feed Token :=
  match source.chars, source.fault with
  | [], some f => ⟨[], some f⟩
  | s, _ => Lexer.run source (s.length + 2) (.start s)

end TrafficReplay.Yaml
