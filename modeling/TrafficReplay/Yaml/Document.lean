import TrafficReplay.Yaml.Lexer
import TrafficReplay.Yaml.Node

/-!
# From tokens to a document

The grammar of a stream that holds one document, as functions that consume tokens. An alias stands
for the node that its anchor names, with that node's line. A missing value is an empty scalar.

An alias may stand inside the node that it names; such a node has no end. A document with one is
read several times, and each time the alias stands for what its name stood for the time before.
A reading is right one level deeper than the one before, so that after `unfoldings` of them all
levels are right that a loader looks at.

* `Parse`: computations that consume tokens;
* `parseNode`: one node, by recursion on a bound for the number of steps;
* `compose`: the root of the document in a source, `none` for an empty stream.
-/

namespace TrafficReplay.Yaml

/-- What a parser works on. -/
structure ParseState where
  /-- The tokens that are left. -/
  tokens : List Token
  /-- The fault met by asking for a token behind them. -/
  fault : Option Fault
  /-- The handles that tags may use. -/
  handles : List String
  /-- The named nodes; a collection that is still open has no node yet. -/
  anchors : List (String × Option Node)
  /-- The named nodes of the reading before. -/
  earlier : List (String × Option Node)
  /-- Whether there was an alias inside the node that it names. -/
  recursive : Bool

/-- Computations that consume tokens. -/
abbrev Parse := StateT ParseState (Except Fault)

namespace Parse

/-- The next token. -/
def peek : Parse Token := do
  let s ← get
  match s.tokens, s.fault with
  | t :: _, _ => return t
  | [], some f => throw f
  | [], none => return ⟨.streamEnd, 0⟩

/-- Consume the next token. -/
def take : Parse Token := do
  let t ← peek
  modify fun s => { s with tokens := s.tokens.tail }
  return t

/-- Whether the next token is one of some kinds. -/
def nextIn (kinds : List Token.Kind) : Parse Bool := return kinds.contains (← peek).kind

/-- Consume the next token if it is of a kind. -/
def takeIf (kind : Token.Kind) : Parse Bool := do
  if (← peek).kind = kind then
    let _ ← take
    return true
  else return false

/-- Consume a token of a kind or fail. -/
def expect (kind : Token.Kind) (f : Fault) : Parse Unit := do
  if !(← takeIf kind) then throw f

/-! ### Properties of a node -/

/-- The properties in front of a node: the line of the first one, and the name it is given. -/
structure Properties where
  line : Option Nat
  anchor : Option String
  tag : Option Tag

/-- Consume an anchor. -/
def anchor? : Parse (Option (String × Nat)) := do
  match ← peek with
  | ⟨.anchor name, line⟩ => do
    let _ ← take
    return some (name, line)
  | _ => return none

/-- Consume a tag. -/
def tag? : Parse (Option (Tag × Nat)) := do
  match ← peek with
  | ⟨.tag t, line⟩ => do
    let _ ← take
    return some (t, line)
  | _ => return none

/-- Consume an anchor and a tag in either order. -/
def properties : Parse Properties := do
  match ← anchor? with
  | some (name, line) => do
    let t ← tag?
    return ⟨some line, some name, t.map Prod.fst⟩
  | none =>
    match ← tag? with
    | some (t, line) => do
      let a ← anchor?
      return ⟨some line, a.map Prod.fst, some t⟩
    | none => return ⟨none, none, none⟩

/-- Fail if a tag uses a handle that is not known. -/
def checkHandle (tag : Option Tag) : Parse Unit := do
  match tag.bind Tag.handle with
  | some h => if !(← get).handles.contains h then throw (.undefinedHandle h)
  | none => return

/-- Give a name to a node that is about to be read. -/
def openAnchor (name : Option String) : Parse Unit := do
  match name with
  | none => return
  | some name => do
    let s ← get
    if (s.anchors.lookup name).isSome then throw (.repeatedAnchor name)
    set { s with anchors := (name, none) :: s.anchors }

/-- Say which node a name stands for. -/
def closeAnchor (name : Option String) (n : Node) : Parse Node := do
  match name with
  | none => return n
  | some name => do
    modify fun s => { s with anchors := (name, some n) :: s.anchors }
    return n

/-! ### Nodes -/

/-- Where a node stands: inside a flow collection, in a block, or as a key or value in a block,
where the entries of a sequence may stand without further indentation. -/
inductive Place
  | flow
  | block
  | pair
  deriving DecidableEq, Repr

/-- The tokens that end a missing key or value of a block mapping. -/
def pairEnds : List Token.Kind := [.key, .value, .blockEnd]

/-- The empty scalar. -/
def emptyScalar (line : Nat) : Node := .scalar line ""

/-- The node that a name stands for; while it is open, the one that it stood for in the reading
before. -/
def named (name : String) : Parse Node := do
  let s ← get
  match s.anchors.lookup name with
  | some (some n) => return n
  | some none => do
    set { s with recursive := true }
    return (s.earlier.lookup name).join.getD (emptyScalar 0)
  | none => throw (.undefinedAlias name)

mutual

/-- One node. -/
def parseNode : Nat → Place → Parse Node
  | 0, _ => return emptyScalar 0
  | fuel + 1, place => do
    match ← peek with
    | ⟨.alias name, _⟩ => do
      let _ ← take
      named name
    | _ => do
      let p ← properties
      checkHandle p.tag
      let t ← peek
      let line := p.line.getD t.line
      let parsed (x : Parse Node) : Parse Node := do
        openAnchor p.anchor
        closeAnchor p.anchor (← x)
      match t.kind, place with
      | .scalar text, _ => do
        let _ ← take
        parsed (return .scalar line text)
      | .flowSequenceStart, _ => parsed do
        let _ ← take
        return .sequence line (← parseFlowItems fuel true)
      | .flowMappingStart, _ => parsed do
        let _ ← take
        return .mapping line (← parseFlowPairs fuel true)
      | .blockEntry, .pair => parsed (return .sequence line (← parseOpenEntries fuel))
      | .blockSequenceStart, .block | .blockSequenceStart, .pair => parsed do
        let _ ← take
        return .sequence line (← parseEntries fuel)
      | .blockMappingStart, .block | .blockMappingStart, .pair => parsed do
        let _ ← take
        return .mapping line (← parsePairs fuel)
      | _, _ =>
        if p.line.isSome then parsed (return emptyScalar line) else throw .missingContent

/-- A node, or the empty scalar if a token of the given kinds is next. -/
def parseOptional : Nat → Place → List Token.Kind → Nat → Parse Node
  | 0, _, _, line => return emptyScalar line
  | fuel + 1, place, ends, line => do
    if ← nextIn ends then return emptyScalar line
    parseNode fuel place

/-- The value behind a key: after a colon, a node that may be missing; without one it is empty. -/
def parseValue : Nat → Place → List Token.Kind → Parse Node
  | 0, _, _ => return emptyScalar 0
  | fuel + 1, place, ends => do
    let t ← peek
    if t.kind = .value then
      let _ ← take
      parseOptional fuel place ends t.line
    else return emptyScalar t.line

/-- The entries of a block sequence up to its end. -/
def parseEntries : Nat → Parse (List Node)
  | 0 => return []
  | fuel + 1 => do
    let t ← peek
    if t.kind = .blockEntry then
      let _ ← take
      let n ← parseOptional fuel .block [.blockEntry, .blockEnd] t.line
      return n :: (← parseEntries fuel)
    else
      expect .blockEnd .unclosedCollection
      return []

/-- The entries of a block sequence that is not indented; nothing marks its end. -/
def parseOpenEntries : Nat → Parse (List Node)
  | 0 => return []
  | fuel + 1 => do
    let t ← peek
    if t.kind = .blockEntry then
      let _ ← take
      let n ← parseOptional fuel .block (.blockEntry :: pairEnds) t.line
      return n :: (← parseOpenEntries fuel)
    else return []

/-- The entries of a block mapping up to its end. -/
def parsePairs : Nat → Parse (List (Node × Node))
  | 0 => return []
  | fuel + 1 => do
    let t ← peek
    if t.kind = .key then
      let _ ← take
      let k ← parseOptional fuel .pair pairEnds t.line
      let v ← parseValue fuel .pair pairEnds
      return (k, v) :: (← parsePairs fuel)
    else
      expect .blockEnd .unclosedCollection
      return []

/-- The items of a flow sequence up to its end. A pair stands for a mapping of its own. -/
def parseFlowItems : Nat → Bool → Parse (List Node)
  | 0, _ => return []
  | fuel + 1, first => do
    if ← takeIf .flowSequenceEnd then return []
    if !first then expect .flowEntry .missingFlowEntry
    let t ← peek
    if t.kind = .key then
      let _ ← take
      let k ← parseOptional fuel .flow [.value, .flowEntry, .flowSequenceEnd] t.line
      let v ← parseValue fuel .flow [.flowEntry, .flowSequenceEnd]
      return .mapping t.line [(k, v)] :: (← parseFlowItems fuel false)
    else if ← takeIf .flowSequenceEnd then return []
    else
      let n ← parseNode fuel .flow
      return n :: (← parseFlowItems fuel false)

/-- The entries of a flow mapping up to its end. An entry without a colon has an empty value. -/
def parseFlowPairs : Nat → Bool → Parse (List (Node × Node))
  | 0, _ => return []
  | fuel + 1, first => do
    if ← takeIf .flowMappingEnd then return []
    if !first then expect .flowEntry .missingFlowEntry
    let t ← peek
    if t.kind = .key then
      let _ ← take
      let k ← parseOptional fuel .flow [.value, .flowEntry, .flowMappingEnd] t.line
      let v ← parseValue fuel .flow [.flowEntry, .flowMappingEnd]
      return (k, v) :: (← parseFlowPairs fuel false)
    else if ← takeIf .flowMappingEnd then return []
    else
      let k ← parseNode fuel .flow
      let line := (← peek).line
      return (k, emptyScalar line) :: (← parseFlowPairs fuel false)

end

/-! ### Documents -/

/-- The handles that need no directive. -/
def defaultHandles : List String := ["!", "!!"]

/-- Consume the directives of a document, given whether a version and which handles came before. -/
def parseDirectives : Nat → Bool → List String → Parse Unit
  | 0, _, _ => return
  | fuel + 1, versioned, handles => do
    match (← peek).kind with
    | .directive d => do
      let _ ← take
      match d with
      | .version major _ => do
        if versioned then throw .repeatedVersion
        if major != 1 then throw .unsupportedVersion
        parseDirectives fuel true handles
      | .tagHandle h _ => do
        if handles.contains h then throw (.repeatedHandle h)
        parseDirectives fuel versioned (h :: handles)
      | .reserved _ => parseDirectives fuel versioned handles
    | _ => modify fun s => { s with handles := handles ++ defaultHandles }

/-- Consume the marks of ended documents. -/
def skipDocumentEnds : Nat → Parse Unit
  | 0 => return
  | fuel + 1 => do
    if ← takeIf .documentEnd then skipDocumentEnds fuel

/-- Consume the beginning of an explicit document; the answer is whether there is one. -/
def parseDocumentStart (fuel : Nat) : Parse Bool := do
  skipDocumentEnds fuel
  if (← peek).kind = .streamEnd then return false
  parseDirectives fuel false []
  expect .documentStart .missingDocumentStart
  return true

/-- Whether a token is a directive. -/
def isDirective : Token.Kind → Bool
  | .directive _ => true
  | _ => false

/-- The root of a document behind its start. -/
def parseExplicitRoot (fuel : Nat) : Parse Node := do
  let t ← peek
  if isDirective t.kind || [.documentStart, .documentEnd, .streamEnd].contains t.kind then
    return emptyScalar t.line
  parseNode fuel .block

/-- The root of the only document of a stream. -/
def parseStream (fuel : Nat) : Parse (Option Node) := do
  let _ ← take
  let t ← peek
  let root ←
    if isDirective t.kind || [.documentStart, .streamEnd].contains t.kind then
      if ← parseDocumentStart fuel then some <$> parseExplicitRoot fuel else pure none
    else some <$> parseNode fuel .block
  match root with
  | none => return none
  | some n => do
    let _ ← takeIf .documentEnd
    if ← parseDocumentStart fuel then throw .furtherDocument
    return some n

end Parse

/-- The number of times that a document is read again if it has a node without an end. -/
def unfoldings : Nat := 16

/-- One reading of a document, given what its names stood for in the reading before. -/
def readDocument (feed : Feed Token) (earlier : List (String × Option Node)) :
    Except Fault (Option Node × ParseState) :=
  (Parse.parseStream (4 * feed.items.length + 4)).run
    ⟨feed.items, feed.fault, Parse.defaultHandles, [], earlier, false⟩

/-- Read a document again, at most a number of times, if a reading met a node without an end. -/
def readAgain (feed : Feed Token) : Nat → Option Node × ParseState → Except Fault (Option Node)
  | 0, (root, _) => .ok root
  | n + 1, (root, s) =>
    if s.recursive then do readAgain feed n (← readDocument feed s.anchors) else .ok root

/-- The root of the document in a source, or the fault that shows first. -/
def compose (source : Source) : Except Fault (Option Node) := do
  let feed := tokens source
  readAgain feed unfoldings (← readDocument feed [])

/-- The root of the document in a text. -/
def composeText (s : String) : Except Fault (Option Node) := compose (.ofText s)

end TrafficReplay.Yaml
