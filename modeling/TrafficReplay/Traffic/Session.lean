import TrafficReplay.Traffic.Message

/-!
# Sessions

A session is a recorded connection with its transactions in order.
-/

namespace TrafficReplay

/-- The protocol of a session. -/
inductive Protocol
  | plain
  | tls
  | http2
  deriving DecidableEq, Repr

namespace Protocol

/-- The protocol of a session over TLS or not, with HTTP/2 or not. -/
def classify (isTls isH2 : Bool) : Protocol :=
  if isH2 then .http2 else if isTls then .tls else .plain

/-- What a protocol is called. -/
def name : Protocol → String
  | .plain => "http"
  | .tls => "https"
  | .http2 => "h2"

/-- The protocol of a name. -/
def ofName? (s : String) : Option Protocol := [plain, tls, http2].find? fun p => p.name = s

end Protocol

/-- A request, the response that is expected, and the key by which transactions are chosen. -/
structure Transaction where
  strict : Bool
  request : Request
  response : Response
  key : Text
  deriving Repr

namespace Transaction

/-- A transaction that is not filled in. -/
def blank (strict : Bool) : Transaction := ⟨strict, .blank, .blank, ""⟩

/-- A number that may be missing, as it is told in a message. -/
def statusText : Option Int → String
  | some n => toString n
  | none => "None"

/-- A transaction as it is told in a message. -/
def describe (t : Transaction) : Text :=
  "Transaction(" ++ t.request.method ++ " " ++ t.request.url ++ " -> " ++
    statusText t.response.status ++ ")"

end Transaction

/-- A connection and its transactions. The start is in microseconds. -/
structure Session where
  path : String
  line : Int
  isTls : Bool
  isH2 : Bool
  serverName : Option Text
  start : Int
  protocol : Protocol
  transactions : List Transaction
  deriving Repr

namespace Session

/-- A session that is not filled in, at a line of a file. -/
def blank (path : String) (line : Int) : Session where
  path := path
  line := line
  isTls := false
  isH2 := false
  serverName := none
  start := 0
  protocol := .plain
  transactions := []

/-- Where a session was recorded. -/
def location (s : Session) : String := place s.path s.line

/-- A session as it is told in a message. -/
def describe (s : Session) : String :=
  "Session(" ++ s.location ++ " protocol=" ++ s.protocol.name ++ " start=" ++ toString s.start ++
    " txns=" ++ toString s.transactions.length ++ ")"

end Session

end TrafficReplay
