import TrafficReplay.Replay.Dispatch

/-!
# What a dispatcher does, in order

A dispatcher meets its surroundings only through what it does to them, so all of it can be recorded
by surroundings that keep a list of it.  Nothing else changes.

* `Surroundings.recorded`: surroundings with a record of what is done to them;
* `Surroundings.Follows`: that a record leads from one state to another;
* `runOn_dispatch_recorded`: a dispatch goes the same way when it is recorded.
-/

namespace TrafficReplay

/-- What a dispatcher does to its surroundings. -/
inductive DispatchEvent
  /-- It reads the clock. -/
  | read (time : Int)
  | slept (duration : Int)
  /-- It asks for a worker. -/
  | asked (answer : Except PoolFault Bool)
  /-- It hands out an item, at a time of the clock. -/
  | handed (time : Int) (item : WorkItem)

/-- A state of surroundings, with what was done to them. -/
structure Recorded (σ : Type) where
  state : σ
  events : List DispatchEvent

variable {σ : Type}

/-- Surroundings with a record of what is done to them. -/
def Surroundings.recorded (e : Surroundings σ) : Surroundings (Recorded σ) where
  now r := ((e.now r.state).1, ⟨(e.now r.state).2, r.events ++ [.read (e.now r.state).1]⟩)
  sleep d r := ⟨e.sleep d r.state, r.events ++ [.slept d]⟩
  takeWorker timeout r :=
    ((e.takeWorker timeout r.state).1,
      ⟨(e.takeWorker timeout r.state).2, r.events ++ [.asked (e.takeWorker timeout r.state).1]⟩)
  assign w r := ⟨e.assign w r.state, r.events ++ [.handed (e.now r.state).1 w]⟩
  finish r := ⟨e.finish r.state, r.events⟩
  stopwatch r := ((e.stopwatch r.state).1, ⟨(e.stopwatch r.state).2, r.events⟩)

/-! ### Records -/

/-- That a record leads from one state to another. -/
inductive Surroundings.Follows (e : Surroundings σ) (timeout : Option Binary64) :
    σ → List DispatchEvent → σ → Prop
  | nil (s : σ) : Follows e timeout s [] s
  | read {s t : σ} {events : List DispatchEvent} (h : Follows e timeout (e.now s).2 events t) :
      Follows e timeout s (.read (e.now s).1 :: events) t
  | slept {s t : σ} {d : Int} {events : List DispatchEvent}
      (h : Follows e timeout (e.sleep d s) events t) : Follows e timeout s (.slept d :: events) t
  | asked {s t : σ} {events : List DispatchEvent}
      (h : Follows e timeout (e.takeWorker timeout s).2 events t) :
      Follows e timeout s (.asked (e.takeWorker timeout s).1 :: events) t
  | handed {s t : σ} {w : WorkItem} {events : List DispatchEvent}
      (h : Follows e timeout (e.assign w s) events t) :
      Follows e timeout s (.handed (e.now s).1 w :: events) t

variable {e : Surroundings σ} {timeout : Option Binary64} {s t u : σ}
  {events events' : List DispatchEvent}

theorem Surroundings.Follows.append (h : e.Follows timeout s events t)
    (h' : e.Follows timeout t events' u) : e.Follows timeout s (events ++ events') u := by
  induction h with
  | nil => exact h'
  | read _ ih => exact .read (ih h')
  | slept _ ih => exact .slept (ih h')
  | asked _ ih => exact .asked (ih h')
  | handed _ ih => exact .handed (ih h')

/-- A record can be cut anywhere. -/
theorem Surroundings.Follows.split (h : e.Follows timeout s (events ++ events') u) :
    ∃ t, e.Follows timeout s events t ∧ e.Follows timeout t events' u := by
  induction events generalizing s with
  | nil => exact ⟨s, .nil s, h⟩
  | cons event events ih =>
    cases h with
    | read h =>
      obtain ⟨t, hbefore, hafter⟩ := ih h
      exact ⟨t, .read hbefore, hafter⟩
    | slept h =>
      obtain ⟨t, hbefore, hafter⟩ := ih h
      exact ⟨t, .slept hbefore, hafter⟩
    | asked h =>
      obtain ⟨t, hbefore, hafter⟩ := ih h
      exact ⟨t, .asked hbefore, hafter⟩
    | handed h =>
      obtain ⟨t, hbefore, hafter⟩ := ih h
      exact ⟨t, .handed hbefore, hafter⟩

/-- What was done between two states that are recorded. -/
structure Recorded.Goes (e : Surroundings σ) (timeout : Option Binary64) (r r' : Recorded σ)
    (done : List DispatchEvent) : Prop where
  events : r'.events = r.events ++ done
  follows : e.Follows timeout r.state done r'.state

namespace Recorded

variable {r r' r'' : Recorded σ}

theorem Goes.refl (e : Surroundings σ) (timeout : Option Binary64) (r : Recorded σ) :
    r.Goes e timeout r [] :=
  ⟨by simp, .nil _⟩

theorem Goes.trans (h : r.Goes e timeout r' events) (h' : r'.Goes e timeout r'' events') :
    r.Goes e timeout r'' (events ++ events') :=
  ⟨by rw [h'.events, h.events, List.append_assoc], h.follows.append h'.follows⟩

theorem goes_now (e : Surroundings σ) (timeout : Option Binary64) (r : Recorded σ) :
    r.Goes e timeout (e.recorded.now r).2 [.read (e.now r.state).1] :=
  ⟨rfl, .read (.nil _)⟩

theorem goes_sleep (e : Surroundings σ) (timeout : Option Binary64) (d : Int) (r : Recorded σ) :
    r.Goes e timeout (e.recorded.sleep d r) [.slept d] :=
  ⟨rfl, .slept (.nil _)⟩

theorem goes_takeWorker (e : Surroundings σ) (timeout : Option Binary64) (r : Recorded σ) :
    r.Goes e timeout (e.recorded.takeWorker timeout r).2
      [.asked (e.takeWorker timeout r.state).1] :=
  ⟨rfl, .asked (.nil _)⟩

theorem goes_assign (e : Surroundings σ) (timeout : Option Binary64) (w : WorkItem)
    (r : Recorded σ) :
    r.Goes e timeout (e.recorded.assign w r) [.handed (e.now r.state).1 w] :=
  ⟨rfl, .handed (.nil _)⟩

end Recorded

/-! ### A recorded dispatch goes the same way -/

/-- A dispatch without its record. -/
def Dispatch.forget (d : Dispatch (Recorded σ)) : Dispatch σ :=
  ⟨d.outside.state, d.rotation, d.stats, d.report⟩

/-- That a step does the same when it is recorded. -/
def Mirrors {α : Type} (x : OnDispatch (Recorded σ) α) (y : OnDispatch σ α) : Prop :=
  ∀ d, y.runOn d.forget = ((x.runOn d).1, (x.runOn d).2.forget)

namespace Mirrors

variable {α β : Type} {x : OnDispatch (Recorded σ) α} {y : OnDispatch σ α}

theorem bind {f : α → OnDispatch (Recorded σ) β} {g : α → OnDispatch σ β} (h : Mirrors x y)
    (hfg : ∀ a, Mirrors (f a) (g a)) : Mirrors (x >>= f) (y >>= g) := by
  intro d
  rw [Step.runOn_bind, Step.runOn_bind, h d]
  rcases x.runOn d with ⟨_ | a, d'⟩
  · rfl
  · exact hfg a d'

protected theorem pure (a : α) : Mirrors (pure a : OnDispatch (Recorded σ) α) (pure a) :=
  fun _ => rfl

theorem arithmetic (x : Except ArithmeticFault α) :
    Mirrors (OnDispatch.arithmetic x : OnDispatch (Recorded σ) α) (OnDispatch.arithmetic x) := by
  intro d
  cases x <;> rfl

end Mirrors

section

variable (e : Surroundings σ) (plan : Plan) (multiplier : Quantity)

theorem mirrors_pace (baseline : Int) (ssn : Session) :
    Mirrors (pace e.recorded plan multiplier baseline ssn)
      (pace e plan multiplier baseline ssn) := by
  refine Mirrors.bind (fun _ => rfl) fun now => (Mirrors.arithmetic _).bind fun due => ?_
  dsimp only
  split
  · exact fun _ => rfl
  · exact .pure _

theorem mirrors_dispatchSession (baseline : Int) (ssn : Session) :
    Mirrors (dispatchSession e.recorded plan multiplier baseline ssn)
      (dispatchSession e plan multiplier baseline ssn) := by
  refine (mirrors_pace e plan multiplier baseline ssn).bind fun _ =>
    Mirrors.bind (fun _ => rfl) fun found => ?_
  cases found with
  | true => exact fun _ => rfl
  | false => exact fun _ => rfl

theorem mirrors_dispatchBatch (baseline : Int) (ssns : List Session) :
    Mirrors (dispatchBatch e.recorded plan multiplier baseline ssns)
      (dispatchBatch e plan multiplier baseline ssns) := by
  induction ssns with
  | nil => exact .pure _
  | cons ssn ssns ih =>
    refine (mirrors_dispatchSession e plan multiplier baseline ssn).bind fun found => ?_
    cases found with
    | true => exact ih
    | false => exact .pure _

theorem mirrors_dispatchTimes (ssns : List Session) (n : Nat) :
    Mirrors (dispatchTimes e.recorded plan multiplier ssns n)
      (dispatchTimes e plan multiplier ssns n) := by
  induction n with
  | zero => exact .pure _
  | succ n ih =>
    refine Mirrors.bind (fun _ => rfl) fun baseline =>
      (mirrors_dispatchBatch e plan multiplier baseline ssns).bind fun found => ?_
    cases found with
    | true => exact Mirrors.bind (fun _ => rfl) fun _ => ih
    | false => exact .pure _

/-- A dispatch goes the same way when it is recorded. -/
theorem runOn_dispatch_recorded (ssns : List Session) (d : Dispatch (Recorded σ)) :
    (dispatch e plan multiplier ssns).runOn d.forget =
      (((dispatch e.recorded plan multiplier ssns).runOn d).1,
        ((dispatch e.recorded plan multiplier ssns).runOn d).2.forget) :=
  mirrors_dispatchTimes e plan multiplier ssns plan.repetitions d

/-- What is done to the surroundings in a dispatch, in order. -/
def eventsOf (ssns : List Session) (s : σ) (rotation : Rotation) : List DispatchEvent :=
  ((dispatch e.recorded plan multiplier ssns).runOn (.start ⟨s, []⟩ rotation)).2.outside.events

end

end TrafficReplay
