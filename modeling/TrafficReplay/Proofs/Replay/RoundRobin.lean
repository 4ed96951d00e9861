import Mathlib.Data.Int.CardIntervalMod
import TrafficReplay.Proofs.Replay.Targets

/-!
# Targets picked from two lists

A target is picked for a protocol, or from one of the two lists by name.  What the picks from one
list give is what the wheel of that list deals, however they are mixed with picks from the other
list.

* `Wheel.deal`: the next items of a wheel with their positions, which go round it;
* `Rotation.Pick`, `Rotation.picked`: picks of targets, and what they give;
* `Rotation.filter_picked`: the picks from one list as the wheel of that list alone deals them;
* `Rotation.picks_in_turn`: what the picks from both lists give.
-/

namespace TrafficReplay

/-! ### One list -/

namespace Wheel

variable {α : Type} (w : Wheel α)

/-- The next items, each with its position. -/
def deal (w : Wheel α) : Nat → List (Nat × α)
  | 0 => []
  | n + 1 => (w.cursor, w.current) :: w.turn.deal n

theorem deal_eq (n : Nat) :
    w.deal n = (List.range n).map fun k => ((turn^[k] w).cursor, (turn^[k] w).current) := by
  induction n generalizing w with
  | zero => rfl
  | succ n ih =>
    rw [deal, ih, List.range_succ_eq_map, List.map_cons, List.map_map]
    rfl

/-- The positions of the next items go round the wheel. -/
theorem map_fst_deal (n : Nat) :
    (w.deal n).map Prod.fst = (List.range n).map fun k => (w.cursor + k) % w.items.length := by
  rw [deal_eq, List.map_map]
  exact List.map_congr_left fun k _ => w.cursor_turns k

/-- Each of the next items stands at its position. -/
theorem getElem?_of_mem_deal {n : Nat} {p : Nat × α} (h : p ∈ w.deal n) :
    w.items[p.1]? = some p.2 := by
  rw [deal_eq] at h
  obtain ⟨k, -, rfl⟩ := List.mem_map.mp h
  rw [← w.items_turns k]
  exact (turn^[k] w).getElem?_cursor

end Wheel

namespace Rotation

/-! ### Picks from both lists -/

/-- One of the two lists. -/
inductive Side
  | http
  | https
  deriving DecidableEq, Repr

/-- What belongs to a list, of the two things that belong to both. -/
def Side.of {α : Type} (http https : α) : Side → α
  | .http => http
  | .https => https

/-- A way to pick a target. -/
inductive Pick
  | next (p : Protocol)
  | nextHttp
  | nextHttps
  deriving DecidableEq, Repr

/-- The list that a pick is made from. -/
def Pick.side : Pick → Side
  | .next .plain | .nextHttp => .http
  | .next .tls | .next .http2 | .nextHttps => .https

/-- A pick, the position at which it finds the cursor of its list, and the target that it gives. -/
structure Picked where
  pick : Pick
  position : Nat
  target : Endpoint
  deriving DecidableEq, Repr

/-- Pick a target. -/
def take (r : Rotation) : Pick → Endpoint × Rotation
  | .next p => r.next p
  | .nextHttp => r.nextHttp
  | .nextHttps => r.nextHttps

/-- The wheel of a list. -/
def wheelOf (r : Rotation) (side : Side) : Wheel Endpoint := side.of r.http r.https

/-- What some picks give, one after another. -/
def picked (r : Rotation) : List Pick → List Picked
  | [] => []
  | p :: ps => ⟨p, (r.wheelOf p.side).cursor, (r.take p).1⟩ :: (r.take p).2.picked ps

/-- A rotation after some picks. -/
def afterPicks (r : Rotation) (ps : List Pick) : Rotation := ps.foldl (fun r p => (r.take p).2) r

variable (r : Rotation)

theorem take_fst (p : Pick) : (r.take p).1 = (r.wheelOf p.side).current := by
  rcases p with (_ | _ | _) | _ | _ <;> rfl

/-- A pick turns the wheel of its list, and leaves the other one alone. -/
theorem wheelOf_take (p : Pick) (side : Side) :
    (r.take p).2.wheelOf side = if p.side = side then (r.wheelOf side).turn else r.wheelOf side := by
  rcases p with (_ | _ | _) | _ | _ <;> cases side <;> rfl

/-- The wheel of a list turns once for each pick from it. -/
theorem wheelOf_afterPicks (ps : List Pick) (side : Side) :
    (r.afterPicks ps).wheelOf side =
      Wheel.turn^[ps.countP fun p => p.side = side] (r.wheelOf side) := by
  induction ps generalizing r with
  | nil => rfl
  | cons p ps ih =>
    have hrest : (r.afterPicks (p :: ps)).wheelOf side =
        Wheel.turn^[ps.countP fun p => p.side = side] ((r.take p).2.wheelOf side) :=
      ih (r.take p).2
    rw [hrest, wheelOf_take, List.countP_cons]
    by_cases hp : p.side = side
    · simp only [hp, if_true, decide_true, Function.iterate_succ_apply]
    · simp only [hp, if_false, decide_false, Bool.false_eq_true, Nat.add_zero]

@[simp] theorem map_pick_picked (ps : List Pick) : (r.picked ps).map Picked.pick = ps := by
  induction ps generalizing r with
  | nil => rfl
  | cons p ps ih => rw [picked, List.map_cons, ih]

/-- The picks from a list give what its wheel deals. -/
theorem filter_picked (ps : List Pick) (side : Side) :
    ((r.picked ps).filter fun t => t.pick.side = side).map (fun t => (t.position, t.target)) =
      (r.wheelOf side).deal (ps.countP fun p => p.side = side) := by
  induction ps generalizing r with
  | nil => rfl
  | cons p ps ih =>
    by_cases hp : p.side = side
    · subst hp
      have hturn : (r.take p).2.wheelOf p.side = (r.wheelOf p.side).turn := by
        rw [wheelOf_take, if_pos rfl]
      simp [picked, ih, hturn, Wheel.deal, take_fst]
    · have hsame : (r.take p).2.wheelOf side = r.wheelOf side := by rw [wheelOf_take, if_neg hp]
      simp [picked, ih, hsame, hp]

/-- A rotation whose wheel of a list is another one's gives the same picks from that list. -/
theorem picked_filter (ps : List Pick) (side : Side) {r r' : Rotation}
    (h : r'.wheelOf side = r.wheelOf side) :
    r'.picked (ps.filter fun p => p.side = side) =
      (r.picked ps).filter fun t => t.pick.side = side := by
  induction ps generalizing r r' with
  | nil => rfl
  | cons p ps ih =>
    by_cases hp : p.side = side
    · have hnext : (r'.take p).2.wheelOf side = (r.take p).2.wheelOf side := by
        rw [wheelOf_take, wheelOf_take, h]
      subst hp
      simp [picked, take_fst, h, ih hnext]
    · have hnext : r'.wheelOf side = (r.take p).2.wheelOf side := by
        rw [h, wheelOf_take, if_neg hp]
      simp [picked, hp, ih hnext]

/-! ### Picks in turn -/

/-- The targets of a list in turn, from the first one on and round the list.  No position comes up
more than once more often than another one. -/
structure InTurn (targets : List Endpoint) (ts : List Picked) : Prop where
  target : ∀ k t, ts[k]? = some t → targets[k % targets.length]? = some t.target
  position : ∀ k t, ts[k]? = some t → t.position = k % targets.length
  even : ∀ i j, i < targets.length → j < targets.length →
    ts.countP (fun t => t.position = i) ≤ ts.countP (fun t => t.position = j) + 1

/-- Of the numbers below a bound, about as many leave one remainder as leave another one. -/
theorem count_mod_le {m : Nat} (hm : 0 < m) {i j : Nat} (hi : i < m) (hj : j < m) (n : Nat) :
    n.count (· % m = i) ≤ n.count (· % m = j) + 1 := by
  have hcount {i : Nat} (hi : i < m) :
      n.count (· % m = i) = n / m + if i % m < n % m then 1 else 0 := by
    rw [← Nat.count_modEq_card n hm i]
    simp only [Nat.ModEq, Nat.mod_eq_of_lt hi]
  rw [hcount hi, hcount hj]
  split <;> split <;> omega

/-- Picks that give what a wheel deals from its first item on give the items in turn. -/
theorem inTurn_of_deal {w : Wheel Endpoint} (hw : w.cursor = 0) {ts : List Picked} {n : Nat}
    (h : ts.map (fun t => (t.position, t.target)) = w.deal n) : InTurn w.items ts := by
  have hpositions : ts.map Picked.position = (List.range n).map (· % w.items.length) := by
    calc ts.map Picked.position = (ts.map fun t => (t.position, t.target)).map Prod.fst := by simp
      _ = (List.range n).map (· % w.items.length) := by simp [h, w.map_fst_deal, hw]
  have hposition (k : Nat) (t : Picked) (ht : ts[k]? = some t) :
      t.position = k % w.items.length := by
    have hk : ((List.range n).map (· % w.items.length))[k]? = some t.position := by
      rw [← hpositions, List.getElem?_map, ht, Option.map_some]
    obtain ⟨hlt, heq⟩ := List.getElem?_eq_some_iff.mp hk
    rw [← heq, List.getElem_map, List.getElem_range]
  have hcount (i : Nat) :
      ts.countP (fun t => t.position = i) = n.count (· % w.items.length = i) := by
    calc ts.countP (fun t => t.position = i)
        = (ts.map Picked.position).countP (fun x => x = i) := by rw [List.countP_map]; rfl
      _ = n.count (· % w.items.length = i) := by rw [hpositions, List.countP_map]; rfl
  constructor
  · intro k t ht
    have hmem : (t.position, t.target) ∈ w.deal n :=
      h ▸ List.mem_map_of_mem (List.mem_of_getElem? ht)
    rw [← hposition k t ht]
    exact w.getElem?_of_mem_deal hmem
  · exact hposition
  · intro i j hi hj
    rw [hcount, hcount]
    exact count_mod_le (by omega) hi hj n

theorem ofLists_eq_ok {http https : List Endpoint} (hhttp : http ≠ []) (hhttps : https ≠ []) :
    ∃ r, ofLists http https = .ok r ∧ ∀ side : Side,
      (r.wheelOf side).items = side.of http https ∧ (r.wheelOf side).cursor = 0 := by
  obtain ⟨a, as, rfl⟩ := List.exists_cons_of_ne_nil hhttp
  obtain ⟨b, bs, rfl⟩ := List.exists_cons_of_ne_nil hhttps
  refine ⟨_, rfl, fun side => ?_⟩
  cases side <;> exact ⟨rfl, rfl⟩

/-- **Targets in turn.** Take two lists of targets, neither of them empty, and any picks.  Those
from one list give its targets in turn, the cursor of the list stays within it, and it makes no
difference to them whether there are picks from the other list. -/
theorem picks_in_turn {http https : List Endpoint} (hhttp : http ≠ []) (hhttps : https ≠ [])
    (ps : List Pick) :
    ∃ r, ofLists http https = .ok r ∧ (r.picked ps).map Picked.pick = ps ∧
      ∀ side : Side,
        InTurn (side.of http https) ((r.picked ps).filter fun t => t.pick.side = side) ∧
        ((r.afterPicks ps).wheelOf side).items = side.of http https ∧
        ((r.afterPicks ps).wheelOf side).cursor =
          (ps.countP fun p => p.side = side) % (side.of http https).length ∧
        ((r.afterPicks ps).wheelOf side).cursor < (side.of http https).length ∧
        r.picked (ps.filter fun p => p.side = side) =
          (r.picked ps).filter fun t => t.pick.side = side := by
  obtain ⟨r, hr, hstart⟩ := ofLists_eq_ok hhttp hhttps
  refine ⟨r, hr, r.map_pick_picked ps, fun side => ?_⟩
  obtain ⟨hitems, hzero⟩ := hstart side
  have hkept : ((r.afterPicks ps).wheelOf side).items = side.of http https := by
    rw [wheelOf_afterPicks, Wheel.items_turns, hitems]
  have hcursor : ((r.afterPicks ps).wheelOf side).cursor =
      (ps.countP fun p => p.side = side) % (side.of http https).length := by
    rw [wheelOf_afterPicks, Wheel.cursor_turns, hzero, Nat.zero_add, hitems]
  refine ⟨?_, hkept, hcursor, ?_, picked_filter ps side rfl⟩
  · rw [← hitems]
    exact inTurn_of_deal hzero (r.filter_picked ps side)
  · rw [← hkept]
    exact ((r.afterPicks ps).wheelOf side).cursor_lt

/-- With two HTTP and three HTTPS targets, the fourth pick from the HTTPS list gives the first one
again, whatever is picked from the HTTP list in between. -/
theorem picks_in_turn_mixed :
    ∃ r, ofLists [⟨"a", 80, ""⟩, ⟨"b", 80, ""⟩]
        [⟨"c", 443, ""⟩, ⟨"d", 443, ""⟩, ⟨"e", 443, ""⟩] = .ok r ∧
      (((r.picked [.nextHttps, .next .plain, .next .tls, .nextHttp, .nextHttp, .next .http2,
        .nextHttps]).filter fun t => t.pick.side = .https)[3]?).map Picked.target =
          some ⟨"c", 443, ""⟩ := by
  let ps : List Pick :=
    [.nextHttps, .next .plain, .next .tls, .nextHttp, .nextHttp, .next .http2, .nextHttps]
  have hhttp : [(⟨"a", 80, ""⟩ : Endpoint), ⟨"b", 80, ""⟩] ≠ [] := by decide
  have hhttps : [(⟨"c", 443, ""⟩ : Endpoint), ⟨"d", 443, ""⟩, ⟨"e", 443, ""⟩] ≠ [] := by decide
  obtain ⟨r, hr, hpicks, hsides⟩ := picks_in_turn hhttp hhttps ps
  obtain ⟨hturn, -⟩ := hsides .https
  have hlength : ((r.picked ps).filter fun t => t.pick.side = .https).length = 4 := by
    calc _ = (((r.picked ps).map Picked.pick).filter fun p => p.side = .https).length := by
          rw [List.filter_map, List.length_map]
          rfl
      _ = 4 := by
          rw [hpicks]
          rfl
  have hlt : 3 < ((r.picked ps).filter fun t => t.pick.side = .https).length := by
    rw [hlength]
    decide
  have hfourth := List.getElem?_eq_getElem hlt
  refine ⟨r, hr, ?_⟩
  rw [hfourth, Option.map_some]
  exact (hturn.target 3 _ hfourth).symm

end Rotation

end TrafficReplay
