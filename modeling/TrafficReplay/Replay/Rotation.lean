import TrafficReplay.Replay.Endpoint
import TrafficReplay.Replay.Setup
import TrafficReplay.Traffic.Session

/-!
# Rotation of targets

Plain sessions go to the HTTP targets in turn, the others to the HTTPS targets. Each list has a
cursor of its own, which moves only when its list is used.
-/

namespace TrafficReplay

/-- Items that are taken in turn, from the first one again after the last one. -/
structure Wheel (α : Type) where
  items : List α
  cursor : Nat
  cursor_lt : cursor < items.length

namespace Wheel

variable {α : Type}

/-- The item whose turn it is. -/
def current (w : Wheel α) : α := w.items.get ⟨w.cursor, w.cursor_lt⟩

/-- Let it be the turn of the item behind. -/
def turn (w : Wheel α) : Wheel α where
  items := w.items
  cursor := (w.cursor + 1) % w.items.length
  cursor_lt := Nat.mod_lt _ (Nat.zero_lt_of_lt w.cursor_lt)

/-- A wheel of some items, the first one in turn; `none` without any. -/
def ofList? : List α → Option (Wheel α)
  | [] => none
  | a :: as => some ⟨a :: as, 0, by simp⟩

end Wheel

/-- The targets of both lists. -/
structure Rotation where
  http : Wheel Endpoint
  https : Wheel Endpoint

namespace Rotation

/-- The rotation over two lists. -/
def ofLists (http https : List Endpoint) : Except SetupFault Rotation :=
  match Wheel.ofList? http, Wheel.ofList? https with
  | some http, some https => .ok ⟨http, https⟩
  | _, _ => .error .noTargets

/-- The next HTTP target. -/
def nextHttp (r : Rotation) : Endpoint × Rotation :=
  (r.http.current, { r with http := r.http.turn })

/-- The next HTTPS target. -/
def nextHttps (r : Rotation) : Endpoint × Rotation :=
  (r.https.current, { r with https := r.https.turn })

/-- The next target for a protocol. -/
def next (r : Rotation) : Protocol → Endpoint × Rotation
  | .plain => r.nextHttp
  | .tls | .http2 => r.nextHttps

end Rotation

end TrafficReplay
