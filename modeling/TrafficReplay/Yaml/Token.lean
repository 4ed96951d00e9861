import TrafficReplay.Yaml.Cursor
import TrafficReplay.Text.Digit

/-!
# Tokens of a YAML text

The tokens and the reading of those that are named by a text: directives, anchors, aliases and
tags. Scalars have a module of their own.
-/

namespace TrafficReplay.Yaml

/-- A tag as it is written: a handle, if there is one, and what follows it. -/
structure Tag where
  handle : Option String
  suffix : String
  deriving DecidableEq, Repr

/-- A directive at the head of a document. -/
inductive Directive
  | version (major minor : Nat)
  | tagHandle (handle uri : String)
  | reserved (name : String)
  deriving DecidableEq, Repr

/-- What a token is. -/
inductive Token.Kind
  | streamStart
  | streamEnd
  | directive (d : Directive)
  | documentStart
  | documentEnd
  | blockSequenceStart
  | blockMappingStart
  | blockEnd
  | flowSequenceStart
  | flowSequenceEnd
  | flowMappingStart
  | flowMappingEnd
  | blockEntry
  | flowEntry
  | key
  | value
  | alias (name : String)
  | anchor (name : String)
  | tag (t : Tag)
  | scalar (text : Text)
  deriving DecidableEq, Repr

/-- A token and the line where it starts. -/
structure Token where
  kind : Token.Kind
  line : Nat
  deriving DecidableEq, Repr

namespace Scan

/-! ### Anchors and aliases -/

/-- Whether the name of an anchor may end in front of a character. -/
def endsName (c : Char) : Bool := isSeparator c || "?:,]\x7d%@`".toList.contains c

/-- Read the name behind the indicator of an anchor or an alias. -/
def readName : Scan String := do
  skip 1
  let name ← readWhile isNameChar
  if name.isEmpty then fail .malformedName
  if !endsName (← next) then fail .malformedName
  return String.ofList name

/-! ### Tags -/

/-- Whether a character may stand in a tag without an escape. -/
def isUriChar (c : Char) : Bool := isNameChar c || ";/?:@&=+$,.!~*'()[]".toList.contains c

/-- The value of a hexadecimal digit. -/
def hexValue (c : Char) : Nat :=
  if c.isDigit then c.toNat - 0x30 else if 'a' ≤ c then c.toNat - 0x57 else c.toNat - 0x37

/-- The value of a row of hexadecimal digits. -/
def hexNumber (s : List Char) : Nat := s.foldl (fun n c => 16 * n + hexValue c) 0

/-- Read escaped bytes, each a percent sign and two hexadecimal digits. -/
def readUriBytes : Nat → Scan (List UInt8)
  | 0 => return []
  | fuel + 1 => do
    if (← next) != '%' then return []
    skip 1
    let digits ← read 2
    if digits.length != 2 || !digits.all isHexDigit then fail .malformedTag
    return UInt8.ofNat (hexNumber digits) :: (← readUriBytes fuel)

/-- Read escaped bytes that spell characters. -/
def readUriEscapes (fuel : Nat) : Scan (List Char) := do
  let r := Text.Utf8.decode (← readUriBytes fuel)
  if r.fault.isSome then fail .malformedTag
  return r.chars

/-- Read the pieces of a tag, plain and escaped in turn. -/
def readUriPieces : Nat → Scan (List Char)
  | 0 => return []
  | fuel + 1 => do
    let plain ← readWhile isUriChar
    if (← next) != '%' then return plain
    let escaped ← readUriEscapes fuel
    return plain ++ escaped ++ (← readUriPieces fuel)

/-- Read a tag or its prefix; at least one character or escape has to be there. -/
def readUri : Scan String := do
  let c ← get
  if !(isUriChar c.next || c.next = '%') then fail .malformedTag
  return String.ofList (← readUriPieces (c.rest.length + 1))

/-- Read a tag handle: an exclamation mark, or a name between two. -/
def readHandle : Scan String := do
  if (← next) != '!' then fail .malformedTag
  skip 1
  if (← next) = ' ' then return "!"
  let name ← readWhile isNameChar
  if (← next) != '!' then fail .malformedTag
  skip 1
  return String.ofList ('!' :: name ++ ['!'])

/-- Whether a tag has a second exclamation mark before it ends. -/
def hasHandle : List Char → Bool
  | [] => false
  | c :: s => if endsWord c then false else c = '!' || hasHandle s

/-- Read a tag. -/
def readTag : Scan Tag := do
  let c ← get
  let tag ←
    if c.ahead 1 = '<' then do
      skip 2
      let suffix ← readUri
      if (← next) != '>' then fail .malformedTag
      skip 1
      pure ⟨none, suffix⟩
    else if isSeparator (c.ahead 1) then do
      skip 1
      pure ⟨none, "!"⟩
    else if hasHandle c.rest.tail then do
      let handle ← readHandle
      pure ⟨some handle, ← readUri⟩
    else do
      skip 1
      pure ⟨some "!", ← readUri⟩
  if !endsWord (← next) then fail .malformedTag
  return tag

/-! ### Directives -/

/-- Read one number of a version. -/
def readVersionNumber : Scan Nat := do
  let digits ← readWhile Char.isDigit
  if digits.isEmpty then fail .malformedDirective
  match Text.readDigits (digits.filterMap Text.digitValue?) with
  | .ok n => return n
  | .error (.tooLong n) => fail (.versionTooLong n)
  | .error .malformed => fail .malformedDirective

/-- Read the version behind its directive's name. -/
def readVersion : Scan Directive := do
  skipSpaces
  let major ← readVersionNumber
  if (← next) != '.' then fail .malformedDirective
  skip 1
  let minor ← readVersionNumber
  if !endsWord (← next) then fail .malformedDirective
  return .version major minor

/-- Read the handle and the prefix behind their directive's name. -/
def readTagHandle : Scan Directive := do
  skipSpaces
  let handle ← readHandle
  if (← next) != ' ' then fail .malformedDirective
  skipSpaces
  let uri ← readUri
  if !endsWord (← next) then fail .malformedDirective
  return .tagHandle handle uri

/-- Read a directive and the rest of its line. -/
def readDirective : Scan Directive := do
  skip 1
  let name ← readWhile isNameChar
  if name.isEmpty then fail .malformedDirective
  if !endsWord (← next) then fail .malformedDirective
  let directive ←
    match String.ofList name with
    | "YAML" => readVersion
    | "TAG" => readTagHandle
    | name => do
      let _ ← readWhile fun c => !endsLine c
      pure (.reserved name)
  finishLine .malformedDirective
  return directive

end Scan

end TrafficReplay.Yaml
