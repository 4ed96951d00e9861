import TrafficReplay.Loading.Directory
import TrafficReplay.Proofs.Loading.Names

/-!
# What a replay file holds

What a walk through a replay file comes to, as a function of the nodes alone: nothing here knows of
a run, a lock or a scope.  `TrafficReplay.Proofs.Loading.Walk` shows that the walk does what its
reading says.

* `Reading`: the names that something brings, and its result or the fault that it stops at;
* `Request.reading`, `Response.reading`: a message filled in from a node;
* `Transaction.reading`, `Session.reading`: what a node of a file comes to, `none` if it is dropped;
* `FileReading`: names, global rules and sessions of a whole file; those from before a fault count.
-/

namespace TrafficReplay
open TrafficReplay.Yaml TrafficReplay.Text

/-- What reading something brings: the names met, in order, and the result, or the fault that the
reading stops at. -/
structure Reading (α : Type) where
  names : List Text
  result : Except Fault α

namespace Reading

variable {α β : Type}

instance : Monad Reading where
  pure a := ⟨[], .ok a⟩
  bind x f :=
    match x.result with
    | .ok a => ⟨x.names ++ (f a).names, (f a).result⟩
    | .error e => ⟨x.names, .error e⟩

@[simp] theorem names_pure (a : α) : (pure a : Reading α).names = [] := rfl

@[simp] theorem result_pure (a : α) : (pure a : Reading α).result = .ok a := rfl

theorem bind_of_ok {x : Reading α} {a : α} (h : x.result = .ok a) (f : α → Reading β) :
    x >>= f = ⟨x.names ++ (f a).names, (f a).result⟩ := by
  simp [bind, h]

theorem bind_of_error {x : Reading α} {e : Fault} (h : x.result = .error e) (f : α → Reading β) :
    x >>= f = ⟨x.names, .error e⟩ := by
  simp [bind, h]

instance : LawfulMonad Reading := LawfulMonad.mk' _
  (fun x => by
    obtain ⟨names, e | a⟩ := x
    · rfl
    · simp [Functor.map])
  (fun a f => bind_of_ok rfl f)
  (fun x f g => by
    cases hx : x.result with
    | error e => simp only [bind, hx]
    | ok a =>
      cases hf : (f a).result with
      | error e => simp only [bind, hx, hf]
      | ok b => simp only [bind, hx, hf, List.append_assoc])

theorem result_bind_eq_ok {x : Reading α} {f : α → Reading β} {b : β} :
    (x >>= f).result = .ok b ↔ ∃ a, x.result = .ok a ∧ (f a).result = .ok b := by
  cases hx : x.result with
  | error e => simp [bind_of_error hx]
  | ok a => simp [bind_of_ok hx]

/-- Meet some names. -/
def learn (names : List Text) : Reading Unit := ⟨names, .ok ()⟩

@[simp] theorem learn_bind (names : List Text) (f : Unit → Reading β) :
    learn names >>= f = ⟨names ++ (f ()).names, (f ()).result⟩ :=
  bind_of_ok rfl f

/-- Read a size. -/
def size? (s : Text) : Reading (Option Nat) :=
  match readSize? s with
  | .ok n => pure n
  | .error (.tooLong digits) => ⟨[], .error (.numberTooLong digits)⟩
  | .error .malformed => pure none

@[simp] theorem names_size? (s : Text) : (size? s).names = [] := by
  unfold size?
  split <;> rfl

/-- Take the bytes of a text. -/
def bytes (t : Text) : Reading Body :=
  match Utf8.encode t with
  | .ok bytes => pure bytes
  | .error f => ⟨[], .error (.unencodable f)⟩

@[simp] theorem names_bytes (t : Text) : (bytes t).names = [] := by
  unfold bytes
  split <;> rfl

theorem result_bytes_eq_ok {t : Text} {b : Body} :
    (bytes t).result = .ok b ↔ Utf8.encode t = .ok b := by
  unfold bytes
  cases Utf8.encode t <;> simp

end Reading

/-! ### Field lists -/

namespace LoadedFields

/-- No fields and no rules, with some notes. -/
def blank (report : Report) : LoadedFields := ⟨[], .empty, report⟩

/-- What a field list holds. -/
def ofNode (path : String) (n : Node) : LoadedFields :=
  if n.isSequence then ofEntries path (n.items.map Entry.ofNode)
  else blank [⟨.error, "Field list at " ++ place path n.line ++ " is not a sequence."⟩]

/-- What the field list under `headers` holds. -/
def ofHeaders (path : String) (n : Node) : LoadedFields :=
  match n.get? "headers" with
  | none => blank []
  | some h =>
    match h.get? "fields" with
    | none => blank [⟨.warn, "Headers at " ++ place path h.line ++ " have no \"fields\" key."⟩]
    | some list => ofNode path list

/-- The names of the fields. -/
def names (l : LoadedFields) : List Text := l.fields.map Prod.fst

/-- What the field list of a block of rules holds, where a field without a rule asks for an equal
value. -/
def ofRules (path : String) (n : Node) : LoadedFields :=
  match n.get? "fields" with
  | none =>
    blank [⟨.warn, "Rule block at " ++ place path n.line ++ " has no \"fields\" key."⟩]
  | some list =>
    let l := ofNode path list
    { l with rules := addEqualRules l.rules l.fields }

/-- What a transaction has for both of its messages. -/
def ofAll (path : String) (n : Node) : LoadedFields :=
  match n.get? "all" with
  | none => blank []
  | some all =>
    match all.get? "headers" with
    | none => blank [⟨.warn, "\"all\" at " ++ place path all.line ++ " has no \"headers\" key."⟩]
    | some headers => ofRules path headers

end LoadedFields

/-! ### Messages -/

namespace Request

/-- A request with the content block: its data, or else its size. -/
def contentBlockReading (path : String) (content : Node) (r : Request) :
    Reading (Request × Report) :=
  match (content.get? "data").bind Node.scalar?, content.get? "size" with
  | some data, _ => do
    let bytes ← Reading.bytes data
    return ({ r with contentData := some bytes, contentSize := bytes.length }, [])
  | none, some size => do
    match ← Reading.size? size.text with
    | some k => return ({ r with contentSize := k }, [])
    | none =>
      return (r, [⟨.warn, "Content at " ++ place path size.line ++
        " has a \"size\" that is not a non-negative integer."⟩])
  | none, none => return (r, [])

/-- A request with the content block, or else with the size in its length field. -/
def contentReading (path : String) (n : Node) (r : Request) : Reading (Request × Report) :=
  match n.get? "content" with
  | some content => contentBlockReading path content r
  | none =>
    match r.fields.first? "content-length" with
    | none => return (r, [])
    | some text => do
      match ← Reading.size? text with
      | some k => return ({ r with contentSize := k }, [])
      | none =>
        return (r, [⟨.warn, "Request at " ++ place path n.line ++
          " has an invalid Content-Length \"" ++ text ++ "\"."⟩])

/-- A request with more fields and rules. -/
def extend (r : Request) (l : LoadedFields) : Request :=
  { r with fields := r.fields ++ l.fields, rules := r.rules.merge l.rules }

/-- A request filled in from a map. -/
def reading (path : String) (n : Node) (r : Request) : Reading (Request × Report) := do
  let (r, a) := r.loadLine path n
  let l := LoadedFields.ofHeaders path n
  Reading.learn l.names
  let (r, b) ← contentReading path n (r.extend l)
  return (r, a ++ l.report ++ b)

end Request

namespace Response

/-- A response with its status. -/
def statusReading (path : String) (n : Node) (r : Response) : Reading (Response × Report) :=
  match n.get? "status" with
  | none => return (r, [⟨.warn, "Response at " ++ place path n.line ++ " has no status."⟩])
  | some s => do
    match ← Reading.size? s.text with
    | some k =>
      if statusRange.1 ≤ k ∧ k ≤ statusRange.2 then return ({ r with status := some (k : Int) }, [])
      else return (r, [loadStatus.invalid path s])
    | none => return (r, [loadStatus.invalid path s])

/-- A response with its reason, if there is one. -/
def withReason (n : Node) (r : Response) : Response :=
  match (n.get? "reason").bind Node.scalar? with
  | some reason => { r with reason }
  | none => r

theorem rules_withReason (n : Node) (r : Response) : (r.withReason n).rules = r.rules := by
  unfold withReason
  split <;> rfl

theorem rules_statusReading {path : String} {n : Node} {r : Response} {p : Response × Report}
    (hp : (statusReading path n r).result = .ok p) : p.1.rules = r.rules := by
  unfold statusReading at hp
  split at hp
  · cases hp
    rfl
  · obtain ⟨k, -, hk⟩ := Reading.result_bind_eq_ok.mp hp
    split at hk
    · split at hk <;> cases hk <;> rfl
    · cases hk
      rfl

/-- A response with more fields and rules. -/
def extend (r : Response) (l : LoadedFields) : Response :=
  { r with fields := r.fields ++ l.fields, rules := r.rules.merge l.rules }

/-- A response filled in from a map. -/
def reading (path : String) (n : Node) (r : Response) : Reading (Response × Report) := do
  let (r, a) ← statusReading path n { r with line := n.line }
  let l := LoadedFields.ofHeaders path n
  Reading.learn l.names
  return ((r.withReason n).extend l, a ++ l.report)

end Response

/-! ### Transactions -/

/-- What the reading of transactions depends on beside the nodes: the settings, the path of the
file, and the global rules. -/
structure ReadingContext where
  settings : Settings
  path : String
  rules : RuleSet

namespace Handler.Section

/-- What a section is for in a mode. -/
inductive Role
  | request
  | response
  | unused
  deriving DecidableEq, Repr

/-- The role of a section in a mode. -/
def role : RunMode → Section → Role
  | .client, .clientRequest | .noProxy, .proxyRequest => .request
  | .client, .proxyResponse | .noProxy, .serverResponse => .response
  | _, _ => .unused

end Handler.Section

/-- A transaction is reported without an error exactly if it has the sections that it needs. -/
theorem Handler.ok_missingSections (mode : RunMode) (path : String) (n : Node) :
    (missingSections mode path n).ok = (requiredSections mode).all fun p => n.has p.1 := by
  unfold missingSections Report.ok
  induction requiredSections mode with
  | nil => rfl
  | cons p ps ih =>
    cases hp : n.has p.1 <;> simp [hp, ih]

namespace Transaction
open Handler (Section)

/-- A transaction with a section that is a map. -/
def mapReading (c : ReadingContext) (s : Section) (n : Node) (t : Transaction) :
    Reading (Transaction × Report) :=
  match s.role c.settings.mode with
  | .request => do
    let (request, a) ← t.request.reading c.path n
    return ({ t with request }, a)
  | .response => do
    let (response, a) ← { t.response with rules := c.rules }.reading c.path n
    return ({ t with response }, a)
  | .unused => return (t, [])

/-- A transaction with a section, if that is there; also whether it is malformed. -/
def sectionReading (c : ReadingContext) (n : Node) (t : Transaction) (s : Section) :
    Reading (Transaction × Report × Bool) :=
  match n.get? s.key with
  | none => return (t, [], false)
  | some m =>
    if m.isMapping then do
      let (t, a) ← mapReading c s m t
      return (t, a, false)
    else
      return (t, [⟨.error, "\"" ++ s.key ++ "\" at " ++ place c.path m.line ++ " is not a map."⟩],
        true)

/-- A transaction with some sections; also whether one is malformed. -/
def sectionsReading (c : ReadingContext) (n : Node) (t : Transaction) :
    List Section → Reading (Transaction × Report × Bool)
  | [] => return (t, [], false)
  | s :: ss => do
    let (t, a, bad) ← sectionReading c n t s
    let (t, b, bad') ← sectionsReading c n t ss
    return (t, a ++ b, bad || bad')

/-- A transaction with some rules added to both messages. -/
def withRules (t : Transaction) (rules : RuleSet) : Transaction :=
  { t with
    request := { t.request with rules := t.request.rules.merge rules }
    response := { t.response with rules := t.response.rules.merge rules } }

/-- A transaction with its key. -/
def keyed (settings : Settings) (t : Transaction) : Transaction :=
  { t with key := t.request.key settings.keyFormat }

/-- Whether a transaction is wanted. -/
def wanted (settings : Settings) (t : Transaction) : Bool :=
  settings.keys.isEmpty || settings.keys.contains t.key

/-- What is reported of a transaction that is not wanted. -/
def skipNote (path : String) (t : Transaction) : Note :=
  ⟨.diag, "Transaction \"" ++ t.key ++ "\" at " ++ place path t.request.line ++
    " is not in the key list, skipped."⟩

/-- What closing a transaction comes to. -/
def closed (c : ReadingContext) (t : Transaction) : Option Transaction × Report :=
  if (t.keyed c.settings).wanted c.settings then (some (t.keyed c.settings), [])
  else (none, [(t.keyed c.settings).skipNote c.path])

/-- What the sections of a transaction come to. -/
def contentsReading (c : ReadingContext) (n : Node) : Reading (Option Transaction × Report) := do
  let (t, a, malformed) ← sectionsReading c n (.blank c.settings.strict) Section.all
  let l := LoadedFields.ofAll c.path n
  Reading.learn l.names
  if malformed then
    return (none, a ++ l.report ++
      [⟨.error, "Transaction at " ++ place c.path n.line ++ " dropped."⟩])
  else
    return ((closed c (t.withRules l.rules)).1,
      a ++ l.report ++ (closed c (t.withRules l.rules)).2)

/-- What a node of a session comes to, `none` if there is no transaction to be replayed. -/
def reading (c : ReadingContext) (n : Node) : Reading (Option Transaction × Report) :=
  let opened := Handler.missingSections c.settings.mode c.path n
  if !n.isMapping then
    return (none, [⟨.error, "Transaction at " ++ place c.path n.line ++ " is not a map."⟩])
  else if opened.ok then do
    let (t, a) ← contentsReading c n
    return (t, opened ++ a)
  else return (none, opened)

/-- What some nodes of a session come to. -/
def readings (c : ReadingContext) : List Node → Reading (List Transaction × Report)
  | [] => return ([], [])
  | n :: ns => do
    let (t, a) ← reading c n
    let (ts, b) ← readings c ns
    return (t.toList ++ ts, a ++ b)

end Transaction

/-! ### Sessions -/

namespace Session

/-- A session with the server name of its `tls` block. -/
def serverNameReading (path : String) (n : Node) (ssn : Session) : Reading (Session × Report) :=
  match (n.get? "tls").bind (·.get? "client-sni") with
  | none => return (ssn, [])
  | some (.scalar _ name) => do
    Reading.learn [lowerText name]
    return ({ ssn with serverName := some (lowerText name) }, [])
  | some _ =>
    return (ssn, [⟨.error, "Session at " ++ place path ssn.line ++
      " has a value for key \"client-sni\" that is not a scalar as required."⟩])

/-- A session with its protocols up to the first one over TLS. -/
def protocolsReading (path : String) (n : Node) :
    List Node → Session → Reading (Session × Report)
  | [], ssn => return (ssn, [])
  | p :: ps, ssn =>
    let name := lower p.text.toList
    let ssn := if Handler.h2Mark.isPrefixOf name then { ssn with isH2 := true } else ssn
    if Handler.tlsMark.isPrefixOf name then serverNameReading path n { ssn with isTls := true }
    else protocolsReading path n ps ssn

/-- A session with what is said of its protocol. -/
def protocolReading (path : String) (n : Node) (ssn : Session) : Reading (Session × Report) :=
  match n.get? "protocol" with
  | none =>
    return (ssn, [⟨.info, "Session at " ++ place path n.line ++ " has no \"protocol\" key."⟩])
  | some (.sequence _ ps) => protocolsReading path n ps ssn
  | some _ =>
    return (ssn, [⟨.warn, "Session at " ++ place path n.line ++
      " has a value for \"protocol\" that is not a sequence."⟩])

/-- A session with the protocol that its marks stand for. -/
def classified (ssn : Session) : Session :=
  { ssn with protocol := .classify ssn.isTls ssn.isH2 }

/-- A session with its start. -/
def startReading (path : String) (n : Node) (ssn : Session) : Reading (Session × Report) :=
  match n.get? "connection-time" with
  | none => return (ssn, [])
  | some (.scalar _ text) => do
    match ← Reading.size? text with
    | some (k + 1) => return ({ ssn with start := ((k + 1) / 1000 : Nat) }, [])
    | _ =>
      return (ssn, [⟨.warn, "Session at " ++ place path n.line ++
        " has a \"connection-time\" value \"" ++ text ++ "\" that is not a positive integer."⟩])
  | some _ =>
    return (ssn, [⟨.warn, "Session at " ++ place path n.line ++
      " has a \"connection-time\" key that is not a scalar."⟩])

/-- What opening a session comes to. -/
def openReading (path : String) (n : Node) : Reading (Session × Report) := do
  let (ssn, a) ← protocolReading path n (.blank path n.line)
  let (ssn, b) ← startReading path n ssn.classified
  return (ssn, a ++ b)

/-- That an entry names a protocol over TLS. -/
def OverTls (p : Node) : Prop := (Text.ofString "tls").toList <+: lower p.text.toList

instance (p : Node) : Decidable (OverTls p) := inferInstanceAs (Decidable (_ <+: _))

/-- That an entry names the second version of the protocol. -/
def OverH2 (p : Node) : Prop := (Text.ofString "h2").toList <+: lower p.text.toList

instance (p : Node) : Decidable (OverH2 p) := inferInstanceAs (Decidable (_ <+: _))

theorem overTls_iff (p : Node) :
    Handler.tlsMark.isPrefixOf (lower p.text.toList) = true ↔ OverTls p :=
  List.isPrefixOf_iff_prefix

theorem overH2_iff (p : Node) :
    Handler.h2Mark.isPrefixOf (lower p.text.toList) = true ↔ OverH2 p :=
  List.isPrefixOf_iff_prefix

theorem any_overTls_iff (ps : List Node) :
    (ps.any fun p => Handler.tlsMark.isPrefixOf (lower p.text.toList)) = true ↔
      ∃ p ∈ ps, OverTls p := by
  rw [List.any_eq_true]
  exact exists_congr fun p => and_congr_right fun _ => overTls_iff p

/-- No protocol over TLS is the second version of the protocol. -/
theorem OverTls.not_overH2 {p : Node} (h : OverTls p) : ¬ OverH2 p := by
  intro h2
  obtain ⟨rest, hrest⟩ := h
  obtain ⟨rest', hrest'⟩ := h2
  rw [← hrest'] at hrest
  cases hrest

/-- What is given as the name of the server. -/
def clientName? (n : Node) : Option Node := (n.get? "tls").bind (·.get? "client-sni")

/-- What is reported of the name of the server. -/
def clientNameReport (path : String) (n : Node) (line : Int) : Report :=
  if (clientName? n).all Node.isScalar then []
  else
    [⟨.error, "Session at " ++ place path line ++
      " has a value for key \"client-sni\" that is not a scalar as required."⟩]

theorem severity_clientNameReport {path : String} {n : Node} {line : Int} {note : Note}
    (h : note ∈ clientNameReport path n line) : note.severity = .error := by
  unfold clientNameReport at h
  split at h
  · cases h
  · rw [List.mem_singleton.mp h]

theorem ok_clientNameReport (path : String) (n : Node) (line : Int) :
    (clientNameReport path n line).ok = (clientName? n).all Node.isScalar := by
  unfold clientNameReport
  cases (clientName? n).all Node.isScalar with
  | true => rfl
  | false => rfl

/-- The name of the server in lower case, if it is a scalar. -/
def clientText? (n : Node) : Option Text :=
  ((clientName? n).bind Node.scalar?).map lowerText

/-- A session with the marks of some protocols: what stands behind the first one over TLS does not
count, and the server is named only if there is such a protocol. -/
def marked (n : Node) (ps : List Node) (ssn : Session) : Session :=
  { ssn with
    isTls := ssn.isTls || decide (∃ p ∈ ps, OverTls p)
    isH2 := ssn.isH2 || decide (∃ p ∈ ps.takeWhile fun p => ¬ OverTls p, OverH2 p)
    serverName :=
      if ∃ p ∈ ps, OverTls p then (clientText? n).or ssn.serverName else ssn.serverName }

theorem result_serverNameReading (path : String) (n : Node) (ssn : Session) :
    (serverNameReading path n ssn).result =
      .ok ({ ssn with serverName := (clientText? n).or ssn.serverName },
        clientNameReport path n ssn.line) := by
  unfold serverNameReading clientNameReport clientText? clientName?
  rcases (n.get? "tls").bind (·.get? "client-sni") with _ | ⟨_, name⟩ | ⟨_, _⟩ | ⟨_, _⟩
  · rfl
  · rfl
  · rfl
  · rfl

/-- Going through protocols gives a session their marks. -/
theorem result_protocolsReading (path : String) (n : Node) (ps : List Node) (ssn : Session) :
    (protocolsReading path n ps ssn).result =
      .ok (ssn.marked n ps,
        if ∃ p ∈ ps, OverTls p then clientNameReport path n ssn.line else []) := by
  induction ps generalizing ssn with
  | nil => simp [protocolsReading, marked]
  | cons p ps ih =>
    unfold protocolsReading
    simp only [overTls_iff, overH2_iff]
    by_cases htls : OverTls p
    · rw [if_pos htls, if_neg htls.not_overH2, result_serverNameReading]
      simp [marked, htls]
    · rw [if_neg htls, ih]
      by_cases hh2 : OverH2 p
      · simp [marked, htls, hh2]
      · simp [marked, htls, hh2]

/-- Opening a session gives it no transactions. -/
theorem transactions_openReading {path : String} {n : Node} {p : Session × Report}
    (hp : (openReading path n).result = .ok p) : p.1.transactions = [] := by
  obtain ⟨q, hq, hrest⟩ := Reading.result_bind_eq_ok.mp hp
  obtain ⟨r, hr, hpure⟩ := Reading.result_bind_eq_ok.mp hrest
  have hprotocol : q.1.transactions = [] := by
    unfold protocolReading at hq
    split at hq
    · cases hq
      rfl
    · rw [result_protocolsReading] at hq
      cases hq
      rfl
    · cases hq
      rfl
  have hstart : r.1.transactions = q.1.transactions := by
    unfold startReading at hr
    split at hr
    · cases hr
      rfl
    · obtain ⟨k, -, hk⟩ := Reading.result_bind_eq_ok.mp hr
      split at hk <;> cases hk <;> rfl
    · cases hr
      rfl
  cases hpure
  rw [hstart, hprotocol]

/-- A session with its transactions. -/
def transactionsReading (c : ReadingContext) (n : Node) (ssn : Session) :
    Reading (Session × Report) :=
  match n.get? "transactions" with
  | none =>
    return (ssn, [⟨.warn, "Session at " ++ place c.path n.line ++
      " has no \"transactions\" key."⟩])
  | some (.sequence _ ns) => do
    let (ts, a) ← Transaction.readings c ns
    return ({ ssn with transactions := ssn.transactions ++ ts }, a)
  | some _ =>
    return (ssn, [⟨.error, "Session at " ++ place c.path n.line ++
      " has a \"transactions\" value that is not a sequence."⟩])

/-- What is reported when a session is closed. -/
def closeNote (ssn : Session) : Note :=
  if ssn.transactions.isEmpty then
    ⟨.diag, "Session at " ++ ssn.location ++ " has no transactions, skipped."⟩
  else
    ⟨.diag, "Session at " ++ ssn.location ++ " loaded with " ++
      toString ssn.transactions.length ++ " transactions."⟩

/-- A session if it has transactions. -/
def registered (ssn : Session) : Option Session :=
  if ssn.transactions.isEmpty then none else some ssn

/-- What the parts of a session come to. One that is reported with an error when it is opened has no
transactions. -/
def contentsReading (c : ReadingContext) (n : Node) : Reading (Session × Report) := do
  let (ssn, a) ← openReading c.path n
  if a.ok then
    let (ssn, b) ← transactionsReading c n ssn
    return (ssn, a ++ b)
  else return (ssn, a)

/-- What a node of a file comes to, `none` if there is no session to be replayed. -/
def reading (c : ReadingContext) (n : Node) : Reading (Option Session × Report) :=
  if !n.isMapping then
    return (none, [⟨.error, "Session at " ++ place c.path n.line ++ " is not a map."⟩])
  else do
    let (ssn, a) ← contentsReading c n
    return (ssn.registered, a ++ [ssn.closeNote])

end Session

/-! ### Files -/

/-- What a file comes to: the names it brings, the global rules after it, the sessions it adds, and
its report or the fault that it stops at. -/
structure FileReading where
  names : List Text
  rules : RuleSet
  sessions : List Session
  result : Except Fault Report

namespace FileReading

/-- A file that brings nothing. -/
def nothing (rules : RuleSet) (result : Except Fault Report) : FileReading := ⟨[], rules, [], result⟩

/-- What some nodes of a file come to. A fault ends the file; the sessions before it are there. -/
def ofSessions (c : ReadingContext) : List Node → FileReading
  | [] => nothing c.rules (.ok [])
  | n :: ns =>
    let r := Session.reading c n
    match r.result with
    | .error e => ⟨r.names, c.rules, [], .error e⟩
    | .ok (ssn, a) =>
      let rest := ofSessions c ns
      ⟨r.names ++ rest.names, c.rules, ssn.toList ++ rest.sessions, rest.result.map (a ++ ·)⟩

/-- The block of global rules of a document. -/
def globalBlock (path : String) (root : Node) : LoadedFields :=
  match (root.get? "meta").bind (·.get? "global-field-rules") with
  | none => .blank []
  | some n => .ofRules path n

/-- The rules that a document adds to the global ones: none if its block is reported with an
error. -/
def addedRules (path : String) (root : Node) : RuleSet :=
  if (globalBlock path root).report.ok then (globalBlock path root).rules else .empty

/-- What the document in a file comes to. -/
def ofDocument (c : ReadingContext) : Option Node → FileReading
  | some (.mapping line entries) =>
    let root := Node.mapping line entries
    let block := globalBlock c.path root
    let rules := c.rules.merge (addedRules c.path root)
    match root.get? "sessions" with
    | none =>
      ⟨block.names, rules, [],
        .ok (block.report ++
          [⟨.error, "Replay file \"" ++ c.path ++ "\" has no \"sessions\" key."⟩])⟩
    | some (.sequence _ ns) =>
      let r := ofSessions { c with rules } ns
      ⟨block.names ++ r.names, rules, r.sessions, r.result.map (block.report ++ ·)⟩
    | some _ =>
      ⟨block.names, rules, [],
        .ok (block.report ++
          [⟨.error, "\"sessions\" value in \"" ++ c.path ++ "\" is not a sequence."⟩])⟩
  | _ =>
    nothing c.rules (.ok [⟨.error, "Replay file \"" ++ c.path ++ "\" is empty or not a map."⟩])

/-- What a file comes to, given the outcome of reading it. -/
def ofRead (c : ReadingContext) : Except FileFault (List UInt8) → FileReading
  | .error f =>
    nothing c.rules (.ok [⟨.error, "Failed to read \"" ++ c.path ++ "\": " ++ f.message c.path⟩])
  | .ok bytes =>
    match compose (.ofFile (.ofBytes bytes)) with
    | .ok root => ofDocument c root
    | .error (.undecodable f) =>
      nothing c.rules (.ok [⟨.error, "Failed to read \"" ++ c.path ++ "\": " ++ f.message⟩])
    | .error f =>
      nothing c.rules
        (if f.isFormal then
          .ok [⟨.error, "Failed to parse \"" ++ c.path ++ "\": " ++ f.message⟩]
        else .error (.unreadable f))

/-- What the file at a path comes to. -/
def ofFile (settings : Settings) (files : FileTree) (rules : RuleSet) (p : FilePath) :
    FileReading :=
  if p.text.toList.contains '\x00' then nothing rules (.error .nullInPath)
  else ofRead ⟨settings, p.text, rules⟩ (files.read p)

end FileReading

end TrafficReplay
