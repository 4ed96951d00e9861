import TrafficReplay.Number.Binary64

/-!
# Pacing

Recorded starts are stretched by a multiplier so that the transactions of a batch come at a wanted
rate.

* `rateMultiplier`: the multiplier for a rate in transactions per second;
* `dueAfter`: when a session is due after the start of its batch.
-/

namespace TrafficReplay

/-- A whole number or a floating point number. -/
inductive Quantity
  | whole (n : Int)
  | real (x : Binary64)
  deriving DecidableEq, Repr

namespace Quantity

/-- Whether a quantity is zero. -/
def isZero : Quantity → Bool
  | .whole n => n = 0
  | .real x => x.isZero

/-- The product with an integer, as a floating point number. A product of integers is exact before
it is rounded. -/
def times (q : Quantity) (k : Int) : Except ArithmeticFault Binary64 :=
  match q with
  | .whole n => Binary64.ofInt (n * k)
  | .real x => return x.mul (← Binary64.ofInt k)

end Quantity

/-- The microseconds of a second. -/
def microsecondsPerSecond : Int := 1000000

/-- The multiplier `transactions · 10⁶ / (rate · span)`; zero when there is nothing to pace. The
span is in microseconds. -/
def rateMultiplier (transactions span : Int) (rate : Option Quantity) :
    Except ArithmeticFault Binary64 :=
  match rate with
  | none => .ok (.zero false)
  | some rate =>
    if rate.isZero ∨ transactions = 0 ∨ span ≤ 0 then .ok (.zero false)
    else do
      let n ← Binary64.ofInt transactions
      let m ← Binary64.ofInt microsecondsPerSecond
      (n.mul m).div (← rate.times span)

/-- The microseconds from the start of the batch until a session with a start is due. A whole
multiplier stretches it exactly. -/
def dueAfter (multiplier : Quantity) (start : Int) : Except ArithmeticFault Int :=
  match multiplier with
  | .whole n => .ok (n * start)
  | .real x => do (x.mul (← Binary64.ofInt start)).truncate

end TrafficReplay
