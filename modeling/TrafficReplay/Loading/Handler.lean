import TrafficReplay.Traffic.RunState
import TrafficReplay.Traffic.Settings

/-!
# Handlers of replay files

While a replay file is walked, a handler is told of sessions, transactions and messages. The
recording handler builds sessions and puts them into the run:

    openSession, (openScope, messages, closeTransaction, leaveScope)*, closeSession

A scope holds the load lock if its transaction could be opened, until the scope is left. The
passive handler accepts everything and builds nothing.

* `Handler`, `LoadState`: a handler, and what it works on;
* `Handler.Callback`, `Handler.call`: the callbacks as data, and their effect.
-/

namespace TrafficReplay
open TrafficReplay.Yaml TrafficReplay.Text

/-- Who is told of what a file holds. -/
inductive Handler
  /-- Builds sessions. -/
  | recording (settings : Settings)
  /-- Builds nothing. -/
  | passive
  deriving Repr

/-- What the loading of one file works on. -/
structure LoadState where
  run : RunState
  path : String
  session : Option Session
  transaction : Option Transaction
  /-- The open scopes, the innermost first: whether each holds the load lock. -/
  scopes : List Bool
  deriving Repr

/-- The state before a file is loaded. -/
def LoadState.start (run : RunState) (path : String) : LoadState := ⟨run, path, none, none, []⟩

/-- Steps that load a file. -/
abbrev Load := Step LoadState Fault

namespace Load

/-- A step on the run. -/
def onRun {α : Type} (x : OnRun α) : Load α :=
  Step.onPart LoadState.run (fun s run => { s with run }) x

/-- The open transaction; without one, a message is out of place. -/
def transaction : Load Transaction := do
  match (← get).transaction with
  | some t => return t
  | none => throw .detached

/-- Change the open transaction. -/
def changeTransaction (f : Transaction → Transaction) : Load Unit :=
  modify fun s => { s with transaction := s.transaction.map f }

/-- Change the open session. -/
def changeSession (f : Session → Session) : Load Unit :=
  modify fun s => { s with session := s.session.map f }

/-- Fill in a message of the open transaction. -/
def fill {μ : Type} (message : Transaction → μ) (replace : Transaction → μ → Transaction)
    (x : Fill μ Report) : Load Report := do
  let t ← transaction
  Step.onPart (fun s => (⟨s.run.names, message t⟩ : Draft μ))
    (fun s d =>
      { s with
        run := { s.run with names := d.names }
        transaction := some (replace t d.message) })
    x

end Load

namespace Handler

/-! ### Sessions -/

/-- The front of the name of a protocol over TLS. -/
def tlsMark : List CodePoint := (Text.ofString "tls").toList

/-- The front of the name of a second version of the protocol. -/
def h2Mark : List CodePoint := (Text.ofString "h2").toList

/-- Take the server name from the `tls` block of a session. -/
def loadServerName (n : Node) : Load Report := do
  match (n.get? "tls").bind (·.get? "client-sni") with
  | none => return []
  | some (.scalar _ name) => do
    let name ← Load.onRun (RunState.withLock (RunState.localize (lowerText name)))
    Load.changeSession fun s => { s with serverName := some name }
    return []
  | some _ => do
    let s ← get
    let line := (s.session.map Session.line).getD 0
    return [⟨.error, "Session at " ++ place s.path line ++
      " has a value for key \"client-sni\" that is not a scalar as required."⟩]

/-- Go through the protocols of a session up to the first one over TLS. -/
def loadProtocols (n : Node) : List Node → Load Report
  | [] => return []
  | p :: ps => do
    let name := lower p.text.toList
    if h2Mark.isPrefixOf name then Load.changeSession fun s => { s with isH2 := true }
    if tlsMark.isPrefixOf name then
      Load.changeSession fun s => { s with isTls := true }
      loadServerName n
    else loadProtocols n ps

/-- Take the protocol of a session. -/
def loadProtocol (n : Node) : Load Report := do
  let here : Text := "Session at " ++ place (← get).path n.line
  match n.get? "protocol" with
  | none => return [⟨.info, here ++ " has no \"protocol\" key."⟩]
  | some (.sequence _ ps) => loadProtocols n ps
  | some _ =>
    return [⟨.warn, here ++ " has a value for \"protocol\" that is not a sequence."⟩]

/-- Take the start of a session; it is recorded in nanoseconds. -/
def loadStart (n : Node) : Load Report := do
  let here : Text := "Session at " ++ place (← get).path n.line
  match n.get? "connection-time" with
  | none => return []
  | some (.scalar _ text) =>
    match readSize? text with
    | .error (.tooLong digits) => throw (.numberTooLong digits)
    | .ok (some (k + 1)) => do
      Load.changeSession fun s => { s with start := ((k + 1) / 1000 : Nat) }
      return []
    | _ =>
      return [⟨.warn, here ++ " has a \"connection-time\" value \"" ++ text ++
        "\" that is not a positive integer."⟩]
  | some _ => return [⟨.warn, here ++ " has a \"connection-time\" key that is not a scalar."⟩]

/-- Open a session. -/
def openSession : Handler → Node → Load Report
  | .passive, _ => return []
  | .recording _, n => do
    modify fun s => { s with session := some (.blank s.path n.line) }
    let a ← loadProtocol n
    Load.changeSession fun s => { s with protocol := .classify s.isTls s.isH2 }
    let b ← loadStart n
    return a ++ b

/-- Close the session and put it into the run. -/
def closeSession : Handler → Load Report
  | .passive => return []
  | .recording _ => do
    match (← get).session with
    | none => return []
    | some ssn => do
      modify fun s => { s with session := none }
      if ← Load.onRun (RunState.addSession ssn) then
        return [⟨.diag, "Session at " ++ ssn.location ++ " loaded with " ++
          toString ssn.transactions.length ++ " transactions."⟩]
      else return [⟨.diag, "Session at " ++ ssn.location ++ " has no transactions, skipped."⟩]

/-! ### Transactions -/

/-- The sections that a transaction needs in a mode, and what they are called. -/
def requiredSections : RunMode → List (Text × Text)
  | .noProxy => [("proxy-request", "proxy request"), ("server-response", "server response")]
  | .client => [("client-request", "client request"), ("proxy-response", "proxy response")]

/-- What is reported of a transaction that lacks sections. -/
def missingSections (mode : RunMode) (path : String) (n : Node) : Report :=
  (requiredSections mode).filterMap fun (key, name) =>
    if n.has key then none
    else
      some ⟨.error, "Transaction node at " ++ place path n.line ++ " does not have a " ++ name ++
        " [" ++ key ++ "]."⟩

/-- Open a transaction if it has the sections that it needs. -/
def openTransaction : Handler → Node → Load Report
  | .passive, _ => return []
  | .recording settings, n => do
    let s ← get
    if s.transaction.isSome then throw .transactionOpen
    let report := missingSections settings.mode s.path n
    if report.ok then
      set { s with transaction := some (.blank settings.strict) }
    return report

/-- Put the transaction into the session if its key is wanted, and close it. -/
def closeTransaction : Handler → Load Report
  | .passive => return []
  | .recording settings => do
    let s ← get
    match s.transaction with
    | none => throw .noTransaction
    | some t => do
      set { s with transaction := none }
      let t := { t with key := t.request.key settings.keyFormat }
      if settings.keys.isEmpty || settings.keys.contains t.key then
        if s.session.isNone then throw .detached
        Load.changeSession fun ssn => { ssn with transactions := ssn.transactions ++ [t] }
        return []
      else
        return [⟨.diag, "Transaction \"" ++ t.key ++ "\" at " ++ place s.path t.request.line ++
          " is not in the key list, skipped."⟩]

/-- Drop the open transaction. -/
def discardTransaction : Handler → Load Unit
  | .passive => return
  | .recording _ => modify fun s => { s with transaction := none }

/-! ### Scopes -/

/-- Enter the scope of a transaction. If the transaction can be opened, the scope takes the load
lock. -/
def openScope (h : Handler) (n : Node) : Load Report := do
  let report ← h.openTransaction n
  match h with
  | .passive => modify fun s => { s with scopes := false :: s.scopes }
  | .recording _ =>
    if report.ok then
      if (← get).run.locked then
        modify fun s => { s with transaction := none }
        throw .lockHeld
      modify fun s =>
        { s with run := { s.run with locked := true }, scopes := true :: s.scopes }
    else modify fun s => { s with scopes := false :: s.scopes }
  return report

/-- Leave the innermost scope. One that holds the load lock gives it back, and what is left of its
transaction is dropped. -/
def leaveScope : Load Unit :=
  modify fun s =>
    match s.scopes with
    | [] => s
    | false :: scopes => { s with scopes }
    | true :: scopes =>
      { s with run := { s.run with locked := false }, transaction := none, scopes }

/-- Run a step in the scope of a transaction, given what opening it reported. The scope is left
also when the step stops at a fault. -/
def inScope {α : Type} (h : Handler) (n : Node) (x : Report → Load α) : Load α := do
  let report ← h.openScope n
  Step.ofRun fun s =>
    let (r, s) := (x report).runOn s
    (r, (leaveScope.runOn s).2)

/-! ### Messages -/

/-- Fill in the request. -/
def fillRequest (n : Node) : Load Report := do
  let path := (← get).path
  Load.fill Transaction.request (fun t request => { t with request }) (Request.load path n)

/-- Fill in the response, which starts with the global rules. -/
def fillResponse (n : Node) : Load Report := do
  let s ← get
  let _ ← Load.transaction
  Load.changeTransaction fun t =>
    { t with response := { t.response with rules := s.run.rules.rules } }
  Load.fill Transaction.response (fun t response => { t with response }) (Response.load s.path n)

/-- The request of the client; it is sent in client mode. -/
def clientRequest : Handler → Node → Load Report
  | .recording settings, n => if settings.mode = .client then fillRequest n else return []
  | .passive, _ => return []

/-- The request of the proxy; it is sent in no-proxy mode. -/
def proxyRequest : Handler → Node → Load Report
  | .recording settings, n => if settings.mode = .noProxy then fillRequest n else return []
  | .passive, _ => return []

/-- The response of the server; it is expected in no-proxy mode. -/
def serverResponse : Handler → Node → Load Report
  | .recording settings, n => if settings.mode = .noProxy then fillResponse n else return []
  | .passive, _ => return []

/-- The response of the proxy; it is expected in client mode. -/
def proxyResponse : Handler → Node → Load Report
  | .recording settings, n => if settings.mode = .client then fillResponse n else return []
  | .passive, _ => return []

/-- Add rules to both messages of the transaction. -/
def applyToAll : Handler → RuleSet → Load Report
  | .passive, _ => return []
  | .recording _, rules => do
    let _ ← Load.transaction
    Load.changeTransaction fun t =>
      { t with
        request := { t.request with rules := t.request.rules.merge rules }
        response := { t.response with rules := t.response.rules.merge rules } }
    return []

/-! ### Files -/

/-- A file begins. -/
def openFile (path : String) : Load Report := do
  modify fun s => { s with path }
  return []

/-- Rules for every response. -/
def globalRules : Handler → RuleSet → Load Report
  | .passive, _ => return []
  | .recording _, rules => do
    Load.onRun (RunState.withLock (RunState.mergeRules rules))
    return []

/-! ### Callbacks as data -/

/-- What a handler is told. -/
inductive Callback
  | openFile (path : String)
  | openSession (n : Node)
  | openTransaction (n : Node)
  | openScope (n : Node)
  | leaveScope
  | clientRequest (n : Node)
  | proxyRequest (n : Node)
  | proxyResponse (n : Node)
  | serverResponse (n : Node)
  | globalRules (rules : RuleSet)
  | applyToAll (rules : RuleSet)
  | closeTransaction
  | discardTransaction
  | closeSession

/-- The effect of a callback. -/
def call (h : Handler) : Callback → Load Report
  | .openFile path => openFile path
  | .openSession n => h.openSession n
  | .openTransaction n => h.openTransaction n
  | .openScope n => h.openScope n
  | .leaveScope => do
    leaveScope
    return []
  | .clientRequest n => h.clientRequest n
  | .proxyRequest n => h.proxyRequest n
  | .proxyResponse n => h.proxyResponse n
  | .serverResponse n => h.serverResponse n
  | .globalRules rules => h.globalRules rules
  | .applyToAll rules => h.applyToAll rules
  | .closeTransaction => h.closeTransaction
  | .discardTransaction => do
    h.discardTransaction
    return []
  | .closeSession => h.closeSession

end Handler

end TrafficReplay
