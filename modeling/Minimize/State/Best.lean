-- Keeping the best point. An iteration counts as an improvement if its cost
-- is strictly lower than the best so far, so of equal costs the first
-- stands; the first iteration that is recorded always counts.
import Minimize.State.Basic

namespace Minimize

variable {τ κ φ : Type} [Count κ] [Flag φ]

namespace Bookkeeping

/-- The bookkeeping with a new best point, found at the current iteration. -/
def improved (b : Bookkeeping τ κ φ) (param cost : Value) : Bookkeeping τ κ φ :=
  { b with
    prevBestParam := b.bestParam
    prevBestCost := b.bestCost
    bestParam := param
    bestCost := cost
    hasBest := Flag.ofBool true
    lastBestIteration := b.iteration
    noImprovementStreak := Count.zero }

omit [Flag φ] in
/-- The bookkeeping after one more iteration without improvement. -/
def unimproved (b : Bookkeeping τ κ φ) : Except Slip (Bookkeeping τ κ φ) :=
  (Count.next b.noImprovementStreak).map fun n => { b with noImprovementStreak := n }

omit [Count κ] in
/-- Whether a cost is better than the best so far. -/
def betters (b : Bookkeeping τ κ φ) (cost : Value) : Except Slip Bool := do
  if ← Flag.holds b.hasBest then cost.less b.bestCost else return true

/-- The bookkeeping after an iteration with this point and cost. -/
def recorded (b : Bookkeeping τ κ φ) (param cost : Value) :
    Except Slip (Bookkeeping τ κ φ × Bool) := do
  if ← b.betters cost then return (b.improved param cost, true)
  return (← b.unimproved, false)

end Bookkeeping

/-- The state with its point recorded, and whether it is the new best. A cost
that cannot be compared is a slip. -/
def State.recordBest (s : State τ κ φ) : Except Slip (State τ κ φ × Bool) :=
  (s.book.recorded s.param s.cost).map fun r => (s.restore r.1, r.2)

end Minimize
