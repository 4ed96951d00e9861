import TrafficReplay.Text.FieldFormat
import TrafficReplay.Text.Quoted
import TrafficReplay.Text.Search

/-!
# Message templates

A template is text with fields in braces, each of which shows an argument: `\x7b\x7d` the next one,
`\x7b2\x7d` the one with that number; the two ways of numbering may not be mixed. The number may be
followed by the place of a character in square brackets, a field may ask for the quoted form by
`!r`, and behind a colon it may have a format, in which further fields may stand. A doubled brace
stands for itself.

* `Piece`, `readField`: a field and the reading of one;
* `fill`: the text of a template with its arguments.
-/

namespace TrafficReplay.Text.Template

/-- What a field may show. -/
inductive Argument
  | text (s : String)
  | number (n : Int)
  | truth (b : Bool)
  | absent
  deriving DecidableEq, Repr

/-- The plain form of an argument. -/
def Argument.plain : Argument → String
  | .text s => s
  | .number n => toString n
  | .truth true => "True"
  | .truth false => "False"
  | .absent => "None"

/-- The quoted form of an argument; only texts are quoted. -/
def Argument.quoted : Argument → String
  | .text s => Text.quoted s
  | a => a.plain

/-- The quoted form of an argument in ASCII characters. -/
def Argument.asciiQuoted (a : Argument) : String :=
  String.ofList <| a.quoted.toList.flatMap fun c =>
    if c.toNat < 0x80 then [c] else codeEscape c.toNat

/-- Why a template cannot be filled. -/
inductive Fault
  | loneOpen
  | loneClose
  | openInField
  | unclosedField
  | unclosedSpec
  | endInConversion
  | longConversion
  | unknownConversion (c : Char)
  /-- A format inside the format of a format. -/
  | tooDeep
  /-- A field that names something other than an argument. -/
  | unknownName (name : String)
  | missingArgument (number : Nat)
  | numberTooLong
  | numberedThenNext
  | nextThenNumbered
  /-- A bracket in a name that is not closed. -/
  | unclosedBracket
  | emptyPart
  /-- Something other than a part behind a bracket. -/
  | strayPart
  /-- An argument has no parts with names. -/
  | noAttribute
  /-- An argument has no part at that place. -/
  | noItem
  /-- A text has no character at that place. -/
  | itemOutOfRange
  /-- A format for an absent value. -/
  | formatOfAbsent
  | format (fault : FormatFault)
  deriving DecidableEq, Repr

/-- The wording of a fault. -/
def Fault.message : Fault → String
  | .loneOpen => "Single '\x7b' encountered in format string"
  | .loneClose => "Single '\x7d' encountered in format string"
  | .openInField => "unexpected '\x7b' in field name"
  | .unclosedField => "expected '\x7d' before end of string"
  | .unclosedSpec => "unmatched '\x7b' in format spec"
  | .endInConversion => "end of string while looking for conversion specifier"
  | .longConversion => "expected ':' after conversion specifier"
  | .unknownConversion c => "Unknown conversion specifier " ++ toldChar 33 126 c
  | .tooDeep => "Max string recursion exceeded"
  | .unknownName name => quoted name
  | .missingArgument n =>
    "Replacement index " ++ toString n ++ " out of range for positional args tuple"
  | .numberTooLong => "Too many decimal digits in format string"
  | .numberedThenNext =>
    "cannot switch from manual field specification to automatic field numbering"
  | .nextThenNumbered =>
    "cannot switch from automatic field numbering to manual field specification"
  | .unclosedBracket => "Missing ']' in format string"
  | .emptyPart => "Empty attribute in format string"
  | .strayPart => "Only '.' or '[' may follow ']' in format field specifier"
  | .noAttribute => "no such attribute"
  | .noItem => "not subscriptable"
  | .itemOutOfRange => "string index out of range"
  | .formatOfAbsent => "an absent value has no format"
  | .format f => f.message

/-! ### Fields -/

/-- A field as it is written: a name, a conversion letter and a format. -/
structure Field where
  name : List Char
  conversion : Option Char
  spec : List Char
  deriving DecidableEq, Repr

/-- A part of a template. -/
inductive Piece
  | literal (c : Char)
  | field (f : Field)
  deriving DecidableEq, Repr

/-- The name of a field, the character that ends it, and what follows. Inside square brackets no
character ends it. -/
def readName (inBrackets : Bool) : List Char → Except Fault (List Char × Char × List Char)
  | [] => .error .unclosedField
  | c :: s =>
    if !inBrackets && c = '{' then .error .openInField
    else if !inBrackets && (c = '}' || c = ':' || c = '!') then .ok ([], c, s)
    else
      let inside := if inBrackets then c != ']' else c = '['
      (readName inside s).map fun (n, r) => (c :: n, r)

/-- The format of a field up to the brace that closes it, and what follows. -/
def readSpec (depth : Nat) : List Char → Except Fault (List Char × List Char)
  | [] => .error .unclosedSpec
  | c :: s =>
    if c = '}' && depth = 0 then .ok ([], s)
    else
      let depth := if c = '{' then depth + 1 else if c = '}' then depth - 1 else depth
      (readSpec depth s).map fun (n, r) => (c :: n, r)

/-- A field behind its opening brace, and what follows it. -/
def readField (s : List Char) : Except Fault (Field × List Char) := do
  match ← readName false s with
  | (name, '!', s) =>
    match s with
    | [] => throw .endInConversion
    | [_] => throw .unclosedSpec
    | c :: '}' :: s => return (⟨name, some c, []⟩, s)
    | c :: ':' :: s => do
      let (spec, s) ← readSpec 0 s
      return (⟨name, some c, spec⟩, s)
    | _ => throw .longConversion
  | (name, ':', s) => do
    let (spec, s) ← readSpec 0 s
    return (⟨name, none, spec⟩, s)
  | (name, _, s) => return (⟨name, none, []⟩, s)

/-! ### Arguments -/

/-- The numbering of fields used so far: none, the number of the next argument, or written ones. -/
inductive Numbering
  | undecided
  | automatic (next : Nat)
  | manual
  deriving DecidableEq, Repr

/-- A number that is written in the name of a field; `none` if it is something else. -/
def writtenNumber? (s : List Char) : Except Fault (Option Nat) :=
  if !isDecimal digitValue? s then .ok none
  else
    let n := digitsValue (s.filterMap digitValue?)
    if FieldFormat.maxNumber < n then .error .numberTooLong else .ok (some n)

/-- Computations that number fields. -/
abbrev Filling := StateT Numbering (Except Fault)

/-- The number of the argument that a field shows. -/
def argumentNumber (first : List Char) : Filling Nat := do
  match ← writtenNumber? first, ← get with
  | none, numbering =>
    if !first.isEmpty then throw (.unknownName (String.ofList first))
    match numbering with
    | .undecided => set (Numbering.automatic 1); return 0
    | .automatic n => set (Numbering.automatic (n + 1)); return n
    | .manual => throw .numberedThenNext
  | some _, .automatic _ => throw .nextThenNumbered
  | some n, _ => set Numbering.manual; return n

/-- The character of a text that a name in brackets asks for. -/
def item (a : Argument) (name : List Char) : Except Fault Argument := do
  match ← writtenNumber? name, a with
  | some n, .text s =>
    match s.toList[n]? with
    | some c => return .text (String.singleton c)
    | none => throw .itemOutOfRange
  | _, _ => throw .noItem

/-- The part of an argument that the rest of a field's name asks for. -/
def part : Nat → Argument → List Char → Except Fault Argument
  | 0, a, _ => .ok a
  | _ + 1, a, [] => .ok a
  | fuel + 1, a, c :: s => do
    if c = '.' then
      throw (if s.head?.all fun c => c = '.' || c = '[' then .emptyPart else .noAttribute)
    if c != '[' then throw .strayPart
    match cutAt? [']'] s with
    | none => throw .unclosedBracket
    | some (name, s) =>
      let n ← writtenNumber? name
      if n.isNone && name.isEmpty then throw .emptyPart
      part fuel (← item a name) s

/-- The argument, or the part of one, that a field shows. -/
def argument (args : List Argument) (name : List Char) : Filling Argument := do
  let isFirst (c : Char) := c != '.' && c != '['
  let n ← argumentNumber (name.takeWhile isFirst)
  match args[n]? with
  | none => throw (.missingArgument n)
  | some a => part (name.length + 1) a (name.dropWhile isFirst)

/-! ### Filling -/

/-- An argument in the form that a conversion letter asks for. -/
def convert (a : Argument) : Option Char → Except Fault Argument
  | none => .ok a
  | some 's' => .ok (.text a.plain)
  | some 'r' => .ok (.text a.quoted)
  | some 'a' => .ok (.text a.asciiQuoted)
  | some c => .error (.unknownConversion c)

/-- A text in a format for values of a kind. -/
def formatted (kind : ValueKind) (spec : List Char)
    (layOut : FieldFormat → Except FormatFault (List Char)) : Except Fault String :=
  (String.ofList <$> (FieldFormat.read kind spec >>= layOut)).mapError Fault.format

/-- An argument in a format; the empty format shows the plain form. -/
def present (a : Argument) (spec : List Char) : Except Fault String :=
  if spec.isEmpty then .ok a.plain
  else
    match a with
    | .text s => formatted .text spec fun f => f.layOutText s.toList
    | .number n => formatted .integer spec fun f => f.layOutInt .integer n
    | .truth b => formatted .truth spec fun f => f.layOutInt .truth b.toInt
    | .absent => .error .formatOfAbsent

/-- The text of a template with its arguments. Formats may hold fields down to a depth. -/
def fillFrom (args : List Argument) : Nat → Nat → List Char → Filling String
  | 0, _, _ => return ""
  | _ + 1, _, [] => return ""
  | fuel + 1, depth, c :: s =>
    if c = '{' then
      match s with
      | [] => throw .loneOpen
      | d :: r =>
        if d = '{' then return "\x7b" ++ (← fillFrom args fuel depth r)
        else do
          let (f, s) ← readField (d :: r)
          let a ← argument args f.name
          let a ← convert a f.conversion
          let spec ←
            if f.spec.contains '{' then
              match depth with
              | 0 => throw .tooDeep
              | depth + 1 => String.toList <$> fillFrom args fuel depth f.spec
            else pure f.spec
          let shown ← present a spec
          return shown ++ (← fillFrom args fuel depth s)
    else if c = '}' then
      match s with
      | '}' :: r => return "\x7d" ++ (← fillFrom args fuel depth r)
      | _ => throw .loneClose
    else return String.singleton c ++ (← fillFrom args fuel depth s)

/-- How deep formats may hold fields. -/
def maxDepth : Nat := 1

/-- The text of a template with its arguments. -/
def fill (template : String) (args : List Argument) : Except Fault String :=
  (fillFrom args (template.toList.length + 1) maxDepth template.toList).run' .undecided

end TrafficReplay.Text.Template
