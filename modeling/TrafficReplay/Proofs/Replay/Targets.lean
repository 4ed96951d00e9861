import Mathlib.Logic.Function.Iterate
import TrafficReplay.Replay.Dispatch

/-!
# Targets taken in turn

Each session takes the next target of the list of its protocol.  The lists are independent: what a
session gets depends on the sessions before it only through the number of those that used the same
list.

* `Wheel.cursor_turns`: where the cursor stands after a number of turns;
* `Rotation.wheel`, `Protocol.sharesTargets`: the list of a protocol, and which protocols share one;
* `Rotation.after`: a rotation after some sessions, with the place of each cursor
  (`Rotation.cursor_wheel_after`);
* `Rotation.deal`: sessions with the targets that they get (`Rotation.getElem?_deal`).
-/

namespace TrafficReplay

namespace Wheel

variable {α : Type} (w : Wheel α)

theorem getElem?_cursor : w.items[w.cursor]? = some w.current := by
  rw [List.getElem?_eq_getElem w.cursor_lt]
  rfl

theorem items_turns (n : Nat) : (turn^[n] w).items = w.items := by
  induction n generalizing w with
  | zero => rfl
  | succ n ih => exact ih w.turn

/-- The cursor moves once for each turn, and from the end of the list to its front. -/
theorem cursor_turns (n : Nat) : (turn^[n] w).cursor = (w.cursor + n) % w.items.length := by
  induction n generalizing w with
  | zero => exact (Nat.mod_eq_of_lt w.cursor_lt).symm
  | succ n ih =>
    have hrest : (turn^[n] w.turn).cursor =
        ((w.cursor + 1) % w.items.length + n) % w.items.length := ih w.turn
    rw [Function.iterate_succ_apply, hrest, Nat.mod_add_mod]
    congr 1
    omega

end Wheel

/-- Whether sessions of two protocols take their targets from one list. -/
def Protocol.sharesTargets (p q : Protocol) : Bool := decide (p = .plain) == decide (q = .plain)

namespace Rotation

variable (r : Rotation)

/-- The targets for a protocol. -/
def wheel : Protocol → Wheel Endpoint
  | .plain => r.http
  | .tls | .http2 => r.https

theorem next_fst (p : Protocol) : (r.next p).1 = (r.wheel p).current := by cases p <;> rfl

/-- Only the list that a target is taken from turns. -/
theorem wheel_next (p q : Protocol) :
    (r.next p).2.wheel q = if p.sharesTargets q then (r.wheel q).turn else r.wheel q := by
  cases p <;> cases q <;> rfl

/-! ### Many targets -/

/-- A rotation after targets were taken for some protocols. -/
def after (ps : List Protocol) : Rotation := ps.foldl (fun r p => (r.next p).2) r

theorem after_cons (p : Protocol) (ps : List Protocol) :
    r.after (p :: ps) = (r.next p).2.after ps := rfl

theorem after_append (ps qs : List Protocol) : r.after (ps ++ qs) = (r.after ps).after qs :=
  List.foldl_append

/-- A list turns once for each target that is taken from it. -/
theorem wheel_after (ps : List Protocol) (q : Protocol) :
    (r.after ps).wheel q = Wheel.turn^[ps.countP (·.sharesTargets q)] (r.wheel q) := by
  induction ps generalizing r with
  | nil => rfl
  | cons p ps ih =>
    rw [after_cons, ih, wheel_next, List.countP_cons]
    cases p.sharesTargets q with
    | false => rfl
    | true => rfl

theorem items_wheel_after (ps : List Protocol) (q : Protocol) :
    ((r.after ps).wheel q).items = (r.wheel q).items := by
  rw [wheel_after, Wheel.items_turns]

theorem cursor_wheel_after (ps : List Protocol) (q : Protocol) :
    ((r.after ps).wheel q).cursor =
      ((r.wheel q).cursor + ps.countP (·.sharesTargets q)) % (r.wheel q).items.length := by
  rw [wheel_after, Wheel.cursor_turns]

/-! ### Sessions with their targets -/

/-- Sessions, each with the next target for its protocol. -/
def deal (r : Rotation) : List Session → List WorkItem
  | [] => []
  | ssn :: ssns => ⟨ssn, (r.next ssn.protocol).1⟩ :: (r.next ssn.protocol).2.deal ssns

@[simp] theorem map_session_deal (ssns : List Session) :
    (r.deal ssns).map WorkItem.session = ssns := by
  induction ssns generalizing r with
  | nil => rfl
  | cons ssn ssns ih => rw [deal, List.map_cons, ih]

theorem deal_append (ssns ssns' : List Session) :
    r.deal (ssns ++ ssns') =
      r.deal ssns ++ (r.after (ssns.map Session.protocol)).deal ssns' := by
  induction ssns generalizing r with
  | nil => rfl
  | cons ssn ssns ih => rw [List.cons_append, deal, ih, deal]; rfl

/-- A session gets the target in turn after the sessions before it. -/
theorem target_deal {ssns : List Session} {i : Nat} {w : WorkItem}
    (h : (r.deal ssns)[i]? = some w) :
    w.target =
      ((r.after ((ssns.take i).map Session.protocol)).wheel w.session.protocol).current := by
  induction ssns generalizing r i with
  | nil => cases h
  | cons ssn ssns ih =>
    cases i with
    | zero =>
      cases h
      exact r.next_fst ssn.protocol
    | succ i => exact ih (r.next ssn.protocol).2 h

theorem take_deal (ssns : List Session) (i : Nat) :
    (r.deal ssns).take i = r.deal (ssns.take i) := by
  induction ssns generalizing r i with
  | nil => rw [List.take_nil, deal, List.take_nil]
  | cons ssn ssns ih =>
    cases i with
    | zero => rfl
    | succ i => exact congrArg _ (ih (r.next ssn.protocol).2 i)

theorem countP_deal (ssns : List Session) (p : Protocol) :
    (r.deal ssns).countP (fun w => w.session.protocol.sharesTargets p) =
      (ssns.map Session.protocol).countP (·.sharesTargets p) := by
  have hsessions := congrArg (List.countP (·.protocol.sharesTargets p)) (r.map_session_deal ssns)
  rw [List.countP_map] at hsessions ⊢
  exact hsessions

/-- The target of an item is as many places behind the cursor, round the list, as there are items
before it that used the list. -/
theorem getElem?_deal {ssns : List Session} {i : Nat} {w : WorkItem}
    (h : (r.deal ssns)[i]? = some w) :
    (r.wheel w.session.protocol).items[((r.wheel w.session.protocol).cursor +
        ((r.deal ssns).take i).countP fun v => v.session.protocol.sharesTargets
          w.session.protocol) % (r.wheel w.session.protocol).items.length]? = some w.target := by
  rw [take_deal, countP_deal, ← cursor_wheel_after, r.target_deal h, ← Wheel.getElem?_cursor,
    items_wheel_after]

end Rotation

end TrafficReplay
