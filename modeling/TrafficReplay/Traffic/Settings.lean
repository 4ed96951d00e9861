import TrafficReplay.Number.Binary64
import TrafficReplay.Text.Basic

/-!
# Settings of a run

Which recorded directives are replayed and checked, which transactions are wanted, and how they
are sent and paced.
-/

namespace TrafficReplay

/-- Which directives drive a replay: those of the client, with a proxy between client and server,
or those of the proxy, straight to the server. -/
inductive RunMode
  | client
  | noProxy
  deriving DecidableEq, Repr

/-- What a mode is called. -/
def RunMode.name : RunMode → String
  | .client => "client"
  | .noProxy => "no-proxy"

/-- The settings that loading and verifying depend on. -/
structure Settings where
  mode : RunMode
  /-- Check every response, also one without rules. -/
  strict : Bool
  /-- The keys of the wanted transactions; without any all are wanted. -/
  keys : List Text
  /-- How the key of a transaction is derived. -/
  keyFormat : Text
  /-- How long a response may take, in seconds. -/
  timeout : Binary64
  /-- Whether the certificates of servers are checked. -/
  verifyTls : Bool
  deriving Repr

/-- Ten, as a floating point number. -/
def tenSeconds : Binary64 := .ofRatio false 10 1

/-- The settings without any options. -/
def Settings.default : Settings where
  mode := .client
  strict := false
  keys := []
  keyFormat := "\x7bmethod\x7d:\x7burl\x7d"
  timeout := tenSeconds
  verifyTls := false

end TrafficReplay
