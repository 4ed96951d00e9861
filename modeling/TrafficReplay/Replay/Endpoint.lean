import TrafficReplay.Text.Digit
import TrafficReplay.Text.Quoted
import TrafficReplay.Text.Search

/-!
# Endpoints

The places that requests are sent to.

* `Endpoint.netloc`, `Endpoint.url`: the text of an endpoint, and the URL of a recorded target on
  it;
* `splitHostPort`: reading `host:port`, the host in brackets if it holds a colon;
* `resolve`: reading a list of endpoints with commas between them, the hosts looked up.
-/

namespace TrafficReplay
open TrafficReplay.Text

/-- An address with a port, and the name that the address was found for. -/
structure Endpoint where
  address : String
  port : Int
  name : String
  deriving DecidableEq, Repr

namespace Endpoint

/-- Whether the address has a colon, as those of version 6 have. -/
def isIpv6 (e : Endpoint) : Bool := e.address.toList.contains ':'

/-- Address and port as they stand in a URL. -/
def netloc (e : Endpoint) : String :=
  (if e.isIpv6 then "[" ++ e.address ++ "]" else e.address) ++ ":" ++ toString e.port

/-- What is left of a recorded target when scheme and host are taken away. -/
def originForm (target : List CodePoint) : List CodePoint :=
  match cutAt? (Text.ofString "://").toList target with
  | none => target
  | some (_, rest) =>
    match rest.dropWhile (· != .char '/') with
    | [] => ['/']
    | path => path

/-- A path with a slash in front. -/
def rooted (path : List CodePoint) : List CodePoint :=
  if path.head? = some (.char '/') then path else .char '/' :: path

/-- The URL of a recorded target on an endpoint. -/
def url (e : Endpoint) (scheme : String) (target : Text) : Text :=
  scheme ++ "://" ++ e.netloc ++ Text.ofList (rooted (originForm target.toList))

/-- An endpoint with all its parts. -/
def describe (e : Endpoint) : String :=
  "Endpoint(address=" ++ quoted e.address ++ ", port=" ++ toString e.port ++ ", name=" ++
    quoted e.name ++ ")"

end Endpoint

/-! ### Reading endpoints -/

/-- Why a text is no list of endpoints. -/
inductive EndpointFault
  /-- A bracket that is not closed, or no colon behind the closing one. -/
  | brokenBrackets (text : String)
  | noPort (text : String)
  | noHost (text : String)
  | invalidPort (text port : String)
  | portOutOfRange (text : String) (port : Int)
  | lookupFailed (host reason : String)
  | noAddress (host : String)
  | noEndpoint (text : String)
  deriving DecidableEq, Repr

/-- A text between double quotes. -/
def doubleQuoted (s : String) : String := "\"" ++ s ++ "\""

/-- The wording of a fault. -/
def EndpointFault.message : EndpointFault → String
  | .brokenBrackets t => "Invalid IPv6 endpoint " ++ doubleQuoted t
  | .noPort t => "Endpoint " ++ doubleQuoted t ++ " has no port"
  | .noHost t => "Endpoint " ++ doubleQuoted t ++ " has no host"
  | .invalidPort t p => "Endpoint " ++ doubleQuoted t ++ " has an invalid port " ++ doubleQuoted p
  | .portOutOfRange t p =>
    "Endpoint " ++ doubleQuoted t ++ " port " ++ toString p ++ " is out of range"
  | .lookupFailed h r => "Failed to resolve " ++ doubleQuoted h ++ ": " ++ r
  | .noAddress h => "No addresses found for " ++ doubleQuoted h
  | .noEndpoint t => "No endpoints in " ++ doubleQuoted t

/-- Cut a trimmed text between host and port. -/
def cutHostPort (text : List Char) : Except EndpointFault (List Char × List Char) :=
  match text with
  | '[' :: rest =>
    match cutAt? [']'] rest with
    | some (host, ':' :: port) => .ok (host, port)
    | _ => .error (.brokenBrackets (String.ofList text))
  | _ =>
    match cutAtLast? ':' text with
    | some cut => .ok cut
    | none => .error (.noPort (String.ofList text))

/-- Read a port of an endpoint with the given text. -/
def readPort (text port : List Char) : Except EndpointFault Int :=
  match readInt port with
  | .error _ => .error (.invalidPort (String.ofList text) (String.ofList port))
  | .ok n =>
    if 0 < n ∧ n < 65536 then .ok n else .error (.portOutOfRange (String.ofList text) n)

/-- Read host and port. -/
def splitHostPort (s : List Char) : Except EndpointFault (List Char × Int) := do
  let text := trim s
  let (host, port) ← cutHostPort text
  if host.isEmpty then throw (.noHost (String.ofList text))
  return (host, ← readPort text port)

/-- The addresses of a host in order, or why there are none. -/
abbrev NameLookup := String → Except String (List String)

/-- Every host is its own address. -/
def NameLookup.identity : NameLookup := fun host => .ok [host]

/-- The endpoint of an entry: the host's first address. -/
def resolveEntry (lookup : NameLookup) (entry : List Char) : Except EndpointFault Endpoint := do
  let (host, port) ← splitHostPort entry
  let host := String.ofList host
  match lookup host with
  | .error reason => throw (.lookupFailed host reason)
  | .ok [] => throw (.noAddress host)
  | .ok (address :: _) => return ⟨address, port, host⟩

/-- The entries of a list that are not blank. -/
def listEntries (targets : List Char) : List (List Char) :=
  (pieces ',' targets).filter fun e => !(trim e).isEmpty

/-- The endpoints of a list, one at least. -/
def resolve (lookup : NameLookup) (targets : String) : Except EndpointFault (List Endpoint) := do
  match ← (listEntries targets.toList).mapM (resolveEntry lookup) with
  | [] => throw (.noEndpoint targets)
  | es => return es

end TrafficReplay
