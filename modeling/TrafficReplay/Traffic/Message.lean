import TrafficReplay.Step
import TrafficReplay.Traffic.Body
import TrafficReplay.Traffic.Fields

/-!
# Messages

The recorded request of a transaction and the response that is expected.

* `Request.load`, `Response.load`: filling a message in from a node, field by field; what was filled
  in before a fault stays;
* `Request.key`: the text that names a transaction, made from a format with placeholders;
* `Request.body`: the bytes that are sent.
-/

namespace TrafficReplay
open TrafficReplay.Yaml TrafficReplay.Text

/-- A request to send. -/
structure Request where
  method : Text
  url : Text
  version : Text
  fields : FieldList
  rules : RuleSet
  line : Nat
  contentSize : Int
  contentData : Option Body
  deriving Repr

/-- A response to check against. -/
structure Response where
  status : Option Int
  reason : Text
  fields : FieldList
  rules : RuleSet
  line : Nat
  deriving Repr

/-- The first value of a field. -/
def FieldList.first? (fs : FieldList) (name : Text) : Option Text := fs.lookup name

/-- A message that is being filled in, beside the name table. -/
structure Draft (μ : Type) where
  names : NameTable
  message : μ

/-- Steps that fill a message in. -/
abbrev Fill (μ : Type) := Step (Draft μ) Fault

namespace Fill

variable {μ : Type}

/-- Change the message. -/
def change (f : μ → μ) : Fill μ Unit := modify fun d => { d with message := f d.message }

/-- Read a size. -/
def size? (s : Text) : Fill μ (Option Nat) :=
  match readSize? s with
  | .ok n => pure n
  | .error (.tooLong digits) => throw (.numberTooLong digits)
  | .error .malformed => pure none

/-- Take the bytes of a text. -/
def bytes (t : Text) : Fill μ Body :=
  match Utf8.encode t with
  | .ok bytes => pure bytes
  | .error f => throw (.unencodable f)

/-- Load the fields and rules under `headers`, and add them to the message. -/
def headers (path : String) (n : Node) (extend : FieldList → RuleSet → μ → μ) :
    Fill μ Report := do
  match n.get? "headers" with
  | none => return []
  | some h =>
    match h.get? "fields" with
    | none =>
      return [⟨.warn, "Headers at " ++ place path h.line ++ " have no \"fields\" key."⟩]
    | some list =>
      Step.update fun d => do
        let (names, loaded) ← loadFields d.names path list
        return (⟨names, extend loaded.fields loaded.rules d.message⟩, loaded.report)

end Fill

/-! ### Requests -/

namespace Request

/-- A request that is not filled in. -/
def blank : Request where
  method := ""
  url := ""
  version := "1.1"
  fields := []
  rules := .empty
  line := 0
  contentSize := 0
  contentData := none

/-- A request as it is told in a message. -/
def describe (r : Request) : Text := "HttpRequest(" ++ r.method ++ " " ++ r.url ++ ")"

/-- The parts of a request line. -/
inductive Part
  | method
  | url
  | version
  deriving DecidableEq, Repr

/-- What a part of the request line is called. -/
def Part.name : Part → String
  | .method => "method"
  | .url => "url"
  | .version => "version"

/-- A part of the request line. -/
def part (r : Request) : Part → Text
  | .method => r.method
  | .url => r.url
  | .version => r.version

/-- Set a part of the request line. -/
def setPart (r : Request) (s : Text) : Part → Request
  | .method => { r with method := s }
  | .url => { r with url := s }
  | .version => { r with version := s }

/-- Set a part of the request line if the node has it. -/
def loadPart (r : Request) (path : String) (n : Node) (p : Part) : Request × Report :=
  match n.get? p.name with
  | none => (r, [])
  | some (.scalar _ s) => (r.setPart s p, [])
  | some c =>
    (r, [⟨.error, "Request at " ++ place path c.line ++ " has a \"" ++ p.name ++
      "\" value that is not a scalar."⟩])

/-- Set the request line. -/
def loadLine (r : Request) (path : String) (n : Node) : Request × Report :=
  let r := { r with line := n.line }
  let (r, a) := r.loadPart path n .method
  let (r, b) := r.loadPart path n .url
  let (r, c) := r.loadPart path n .version
  let d : Report :=
    if r.method.isEmpty then [⟨.warn, "Request at " ++ place path n.line ++ " has no method."⟩]
    else []
  (r, a ++ b ++ c ++ d)

/-- Set the content from the content block: its data, or else its size. -/
def loadContentBlock (path : String) (content : Node) : Fill Request Report := do
  match (content.get? "data").bind Node.scalar?, content.get? "size" with
  | some data, _ =>
    let bytes ← Fill.bytes data
    Fill.change fun r => { r with contentData := some bytes, contentSize := bytes.length }
    return []
  | none, some size =>
    match ← Fill.size? size.text with
    | some n =>
      Fill.change fun r => { r with contentSize := n }
      return []
    | none =>
      return [⟨.warn, "Content at " ++ place path size.line ++
        " has a \"size\" that is not a non-negative integer."⟩]
  | none, none => return []

/-- Set the content from the content block, or else its size from the length field. -/
def loadContent (path : String) (n : Node) : Fill Request Report := do
  match n.get? "content" with
  | some content => loadContentBlock path content
  | none =>
    match (← get).message.fields.first? "content-length" with
    | none => return []
    | some text =>
      match ← Fill.size? text with
      | some n =>
        Fill.change fun r => { r with contentSize := n }
        return []
      | none =>
        return [⟨.warn, "Request at " ++ place path n.line ++ " has an invalid Content-Length \"" ++
          text ++ "\"."⟩]

/-- Fill a request in. -/
def load (path : String) (n : Node) : Fill Request Report := do
  if !n.isMapping then
    Fill.change fun r => { r with line := n.line }
    return [⟨.error, "Request at " ++ place path n.line ++ " is not a map."⟩]
  else
    let (r, a) := (← get).message.loadLine path n
    Fill.change fun _ => r
    let b ← Fill.headers path n fun fs rs r =>
      { r with fields := r.fields ++ fs, rules := r.rules.merge rs }
    let c ← loadContent path n
    return a ++ b ++ c

/-! #### Keys -/

/-- The text for a placeholder; `none` if the name in braces is no placeholder. -/
def placeholder? (r : Request) (name : List CodePoint) : Option (List CodePoint) :=
  if (Text.ofString "field.").toList.isPrefixOf name then
    let field := Text.ofList (lower (name.drop 6))
    some ((r.fields.first? field).getD "").toList
  else
    let name := Text.ofList name
    if name = "method" then some r.method.toList
    else if name = "url" then some r.url.toList
    else if name = "version" then some r.version.toList
    else none

/-- A name in braces at the front of a text, and what follows it. -/
def bracedName? : List CodePoint → Option (List CodePoint × List CodePoint)
  | '{' :: s =>
    let name := s.takeWhile fun c => c != .char '{' && c != .char '}'
    match s.drop name.length with
    | '}' :: rest => if name.isEmpty then none else some (name, rest)
    | _ => none
  | _ => none

/-- A format with its placeholders replaced, in one pass. -/
def expand (r : Request) : Nat → List CodePoint → List CodePoint
  | 0, s => s
  | _ + 1, [] => []
  | fuel + 1, c :: s =>
    match bracedName? (c :: s) with
    | some (name, rest) =>
      (r.placeholder? name).getD (.char '{' :: name ++ [.char '}']) ++ expand r fuel rest
    | none => c :: expand r fuel s

/-- The key of a transaction with this request. -/
def key (r : Request) (format : Text) : Text :=
  .ofList (r.expand format.toList.length format.toList)

/-- The bytes that are sent: the recorded data, else a filled body of the recorded size. -/
def body (r : Request) (buffer : Body) : Except Fault (Option Body) :=
  match r.contentData with
  | some data => .ok (some data)
  | none => if r.contentSize = 0 then .ok none else (buffer.cutFrom r.contentSize).map some

end Request

/-! ### Responses -/

namespace Response

/-- A response that is not filled in. -/
def blank : Response where
  status := none
  reason := ""
  fields := []
  rules := .empty
  line := 0

/-- The least and the greatest status. -/
def statusRange : Nat × Nat := (100, 599)

/-- Set the status. -/
def loadStatus (path : String) (n : Node) : Fill Response Report := do
  match n.get? "status" with
  | none => return [⟨.warn, "Response at " ++ place path n.line ++ " has no status."⟩]
  | some s =>
    match ← Fill.size? s.text with
    | some k =>
      if statusRange.1 ≤ k ∧ k ≤ statusRange.2 then
        Fill.change fun r => { r with status := some (k : Int) }
        return []
      else return [invalid s]
    | none => return [invalid s]
where
  /-- The note for a status that cannot be used. -/
  invalid (s : Node) : Note :=
    ⟨.error, "Response at " ++ place path s.line ++ " has an invalid status \"" ++ s.text ++ "\"."⟩

/-- Fill a response in. -/
def load (path : String) (n : Node) : Fill Response Report := do
  Fill.change fun r => { r with line := n.line }
  if !n.isMapping then
    return [⟨.error, "Response at " ++ place path n.line ++ " is not a map."⟩]
  else
    let a ← loadStatus path n
    match (n.get? "reason").bind Node.scalar? with
    | some reason => Fill.change fun r => { r with reason }
    | none => pure ()
    let b ← Fill.headers path n fun fs rs r =>
      { r with fields := r.fields ++ fs, rules := r.rules.merge rs }
    return a ++ b

/-- Whether a response asks for something by a rule. -/
def hasRules (r : Response) : Bool := !r.rules.entries.isEmpty

end Response

end TrafficReplay
