import TrafficReplay.Loading.Handler

/-!
# Walking a replay file

A replay file is a map with a sequence of sessions, each with a sequence of transactions, and with
global rules under `meta`. What is malformed is reported and skipped: a session or a transaction
that is no map, a transaction that lacks a section, and one with a section that is no map.

* `Handler.walkTransaction`, `Handler.walkSession`, `Handler.walkDocument`.
-/

namespace TrafficReplay
open TrafficReplay.Yaml

namespace Load

/-- Do something for every node, and put the reports in a row. -/
def each (f : Node → Load Report) : List Node → Load Report
  | [] => return []
  | n :: ns => do
    let a ← f n
    let b ← each f ns
    return a ++ b

/-- Load the rules of a block, its names put into the run's name table. -/
def rules (n : Node) : Load (RuleSet × Report) := do
  let path := (← get).path
  onRun do
    let s ← get
    let (names, rules, report) ← loadRules s.names path (some n)
    set { s with names }
    return (rules, report)

end Load

namespace Handler

/-! ### Transactions -/

/-- A section of a transaction. -/
inductive Section
  | clientRequest
  | proxyRequest
  | serverResponse
  | proxyResponse
  deriving DecidableEq, Repr

/-- The sections in the order in which they are loaded. -/
def Section.all : List Section := [clientRequest, proxyRequest, serverResponse, proxyResponse]

/-- The key of a section. -/
def Section.key : Section → Text
  | .clientRequest => "client-request"
  | .proxyRequest => "proxy-request"
  | .serverResponse => "server-response"
  | .proxyResponse => "proxy-response"

/-- Tell the handler of a section. -/
def tell (h : Handler) : Section → Node → Load Report
  | .clientRequest => h.clientRequest
  | .proxyRequest => h.proxyRequest
  | .serverResponse => h.serverResponse
  | .proxyResponse => h.proxyResponse

/-- Load a section if it is there; also whether it is malformed. -/
def walkSection (h : Handler) (n : Node) (s : Section) : Load (Report × Bool) := do
  match n.get? s.key with
  | none => return ([], false)
  | some c =>
    if c.isMapping then return (← h.tell s c, false)
    else
      let path := (← get).path
      return ([⟨.error, "\"" ++ s.key ++ "\" at " ++ place path c.line ++ " is not a map."⟩], true)

/-- Load some sections; also whether one is malformed. -/
def walkSections (h : Handler) (n : Node) : List Section → Load (Report × Bool)
  | [] => return ([], false)
  | s :: ss => do
    let (a, bad) ← h.walkSection n s
    let (b, bad') ← h.walkSections n ss
    return (a ++ b, bad || bad')

/-- Load the rules for both messages of a transaction. -/
def walkAll (h : Handler) (n : Node) : Load Report := do
  match n.get? "all" with
  | none => return []
  | some all =>
    match all.get? "headers" with
    | none =>
      let path := (← get).path
      return [⟨.warn, "\"all\" at " ++ place path all.line ++ " has no \"headers\" key."⟩]
    | some headers => do
      let (rules, a) ← Load.rules headers
      let b ← h.applyToAll rules
      return a ++ b

/-- Load what an open transaction holds, and close or drop it. -/
def walkContents (h : Handler) (n : Node) : Load Report := do
  let (a, malformed) ← h.walkSections n Section.all
  let b ← h.walkAll n
  if malformed then
    let path := (← get).path
    h.discardTransaction
    return a ++ b ++ [⟨.error, "Transaction at " ++ place path n.line ++ " dropped."⟩]
  else
    let c ← h.closeTransaction
    return a ++ b ++ c

/-- Load a transaction. -/
def walkTransaction (h : Handler) (n : Node) : Load Report := do
  if !n.isMapping then
    let path := (← get).path
    return [⟨.error, "Transaction at " ++ place path n.line ++ " is not a map."⟩]
  else
    h.inScope n fun opened => do
      if opened.ok then return opened ++ (← h.walkContents n) else return opened

/-! ### Sessions -/

/-- Load the transactions of a session. -/
def walkTransactions (h : Handler) (n : Node) : Load Report := do
  let here : Text := "Session at " ++ place (← get).path n.line
  match n.get? "transactions" with
  | none => return [⟨.warn, here ++ " has no \"transactions\" key."⟩]
  | some (.sequence _ ts) => Load.each h.walkTransaction ts
  | some _ =>
    return [⟨.error, here ++ " has a \"transactions\" value that is not a sequence."⟩]

/-- Load a session. One that is reported with an error when it is opened is closed empty. -/
def walkSession (h : Handler) (n : Node) : Load Report := do
  if !n.isMapping then
    let path := (← get).path
    return [⟨.error, "Session at " ++ place path n.line ++ " is not a map."⟩]
  else
    let a ← h.openSession n
    let b ← if a.ok then h.walkTransactions n else pure []
    let c ← h.closeSession
    return a ++ b ++ c

/-! ### Documents -/

/-- Load the global rules. Rules that are reported with an error are not used. -/
def walkGlobalRules (h : Handler) (root : Node) : Load Report := do
  match (root.get? "meta").bind (·.get? "global-field-rules") with
  | none => return []
  | some n => do
    let (rules, a) ← Load.rules n
    let b ← if a.ok then h.globalRules rules else pure []
    return a ++ b

/-- Load a document, given the path of its file. -/
def walkDocument (h : Handler) (path : String) (root : Option Node) : Load Report := do
  match root with
  | some (.mapping line entries) => do
    let root := Node.mapping line entries
    let a ← openFile path
    let b ← h.walkGlobalRules root
    match root.get? "sessions" with
    | none =>
      return a ++ b ++ [⟨.error, "Replay file \"" ++ path ++ "\" has no \"sessions\" key."⟩]
    | some (.sequence _ ssns) => return a ++ b ++ (← Load.each h.walkSession ssns)
    | some _ =>
      return a ++ b ++ [⟨.error, "\"sessions\" value in \"" ++ path ++ "\" is not a sequence."⟩]
  | _ => return [⟨.error, "Replay file \"" ++ path ++ "\" is empty or not a map."⟩]

end Handler

end TrafficReplay
