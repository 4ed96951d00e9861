import TrafficReplay.Replay.Dispatch
import TrafficReplay.Replay.Verification
import TrafficReplay.Traffic.RunState
import TrafficReplay.Traffic.Settings

/-!
# Exchanges

An exchange sends a recorded request to a target and gets an answer, or fails.

* `Carrier`: how a session is replayed, over HTTP/1 with or without TLS or over HTTP/2;
* `Call`, `callFor`: a request as it is sent;
* `Failure`: how an exchange fails, with `Failure.endsExchange` and `Failure.isUnreachable`;
* `Peer`: the other side of the exchanges.
-/

namespace TrafficReplay

/-! ### Carriers -/

/-- How the transactions of a session are carried. -/
inductive Carrier
  | plain
  /-- Over TLS, presenting a server name. -/
  | tls (serverName : Option Text)
  | http2
  deriving DecidableEq, Repr

namespace Carrier

/-- The carrier for a session. There is none for HTTP/2 without a proxy to end it. -/
def select (mode : RunMode) (ssn : Session) : Option Carrier :=
  match ssn.protocol with
  | .plain => some .plain
  | .tls => some (.tls ssn.serverName)
  | .http2 =>
    match mode with
    | .noProxy => none
    | .client => some .http2

/-- The scheme of the URLs. -/
def scheme : Carrier → String
  | .plain => "http"
  | .tls _ | .http2 => "https"

/-- What a carrier is called in a message. -/
def description : Carrier → String
  | .plain => "HTTP"
  | .tls _ => "TLS"
  | .http2 => "HTTP/2"

/-- The server name that is presented; an empty one is none. -/
def serverName : Carrier → Option Text
  | .tls name => name.filter fun s => !s.isEmpty
  | .plain | .http2 => none

end Carrier

/-! ### Calls -/

/-- How a call over HTTP/1 is made. -/
structure CallOptions where
  /-- How long the answer may take, in seconds. -/
  timeout : Binary64
  verifyTls : Bool
  followRedirects : Bool
  retries : Nat
  serverName : Option Text
  deriving Repr

/-- A request as it is sent; the options are those of HTTP/1. -/
structure Call where
  method : Text
  url : Text
  headers : FieldList
  body : Option Body
  options : Option CallOptions
  deriving Repr

/-- The fields that follow from the body. -/
def framingFields : List Text := ["content-length", "transfer-encoding"]

/-- The fields that are about a connection and not allowed in HTTP/2. -/
def connectionFields : List Text :=
  framingFields ++ (["connection", "keep-alive", "proxy-connection", "upgrade"] : List Text)

/-- Fields without those of some names. -/
def fieldsWithout (names : List Text) (fields : FieldList) : FieldList :=
  fields.filter fun f => !names.contains f.1

/-- Fields with each name once, in order, the values of each joined. -/
def foldFields (fields : FieldList) : Keyed Text :=
  fields.foldl (fun m f => m.alter f.1 (joinValue f.2)) .empty

/-- The fields that are sent. -/
def Carrier.outboundFields (c : Carrier) (fields : FieldList) : FieldList :=
  match c with
  | .plain | .tls _ => (foldFields (fieldsWithout framingFields fields)).entries
  | .http2 => fieldsWithout connectionFields fields

/-- How calls are made over a carrier. -/
def Carrier.options (c : Carrier) (settings : Settings) : Option CallOptions :=
  match c with
  | .plain | .tls _ =>
    some
      { timeout := settings.timeout
        verifyTls := settings.verifyTls
        followRedirects := false
        retries := 0
        serverName := c.serverName }
  | .http2 => none

/-- The method that is sent; a request without one is a `GET`. -/
def Request.sentMethod (r : Request) : Text := if r.method.isEmpty then "GET" else r.method

/-- A request as it is sent to a target. -/
def callFor (c : Carrier) (settings : Settings) (buffer : Body) (target : Endpoint)
    (r : Request) : Except Fault Call := do
  return {
    method := r.sentMethod
    url := target.url c.scheme r.url
    headers := c.outboundFields r.fields
    body := ← r.body buffer
    options := c.options settings }

/-! ### Answers -/

/-- Who reports a failure. -/
inductive FailureOrigin
  | http1
  | http2
  | elsewhere
  deriving DecidableEq, Repr

/-- What a failure is about. -/
inductive FailureCause
  | noConnection
  | connectTimeout
  | tls
  | proxy
  | badUrl
  | other
  deriving DecidableEq, Repr

/-- A failure of an exchange. -/
structure Failure where
  origin : FailureOrigin
  cause : FailureCause
  /-- The name of the failure where it is reported. -/
  kind : String
  message : String
  deriving DecidableEq, Repr

/-- Whether a failure ends an exchange and no more. Any other one stops the replay of the session. A
URL that is refused is such another one over HTTP/2. -/
def Failure.endsExchange (f : Failure) : Carrier → Bool
  | .plain | .tls _ => f.origin = .http1
  | .http2 => f.origin = .http2 && f.cause != .badUrl

/-- Whether a failure that ends an exchange says that the target was not reached. Over HTTP/2 only
a connection that cannot be made counts as such. -/
def Failure.isUnreachable (f : Failure) : Carrier → Bool
  | .plain | .tls _ => [.noConnection, .connectTimeout, .tls, .proxy].contains f.cause
  | .http2 => f.cause = .noConnection

/-- A received response. -/
structure Received where
  status : Int
  headers : FieldList
  deriving DecidableEq, Repr

/-- How an exchange ends, and after how many milliseconds. -/
structure Answer where
  delay : Nat
  outcome : Except Failure Received

/-- The other side of the exchanges, on a state of type `ρ`. -/
abbrev Peer (ρ : Type) := Call → ρ → Answer × ρ

end TrafficReplay
