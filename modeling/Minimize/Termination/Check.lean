-- The check that ends a run. The criteria are held against the state in a
-- fixed order, the first that fires gives the reason, and the solver is
-- asked last: abort, time, iterations, target cost, streak, evaluations.
import Minimize.State.Basic
import Minimize.Termination.Criteria

namespace Minimize

variable {τ κ φ : Type} [Span τ] [Count κ]

namespace Criteria

omit [Span τ] in
/-- The first budget that is used up. -/
def spentBudget? (counts : Table κ) : List (String × Period) → Except Slip (Option Reason)
  | [] => .ok none
  | (counter, limit) :: rest => do
    if ← Count.reaches ((counts.get? counter).getD Count.zero) limit.count then
      return some (.evaluationBudgetExceeded counter)
    spentBudget? counts rest

omit [Count κ] in
def timeIsUp (c : Criteria) (elapsed : τ) : Except Slip Bool :=
  match c.maxTime with
  | some limit => Span.exceeds elapsed limit
  | none => .ok false

omit [Span τ] in
def itersAreUp (c : Criteria) (iteration : κ) : Except Slip Bool :=
  match c.maxIters with
  | some n => Count.reaches iteration n
  | none => .ok false

/-- Whether the best cost has reached the target. A cost that is no number
is a slip. -/
def targetIsMet (c : Criteria) (best : Value) : Except Slip Bool :=
  match c.targetCost with
  | some target => best.atMost (.float target)
  | none => .ok false

omit [Span τ] in
/-- The streak that is too long. -/
def longStreak? (c : Criteria) (streak : κ) : Except Slip (Option Reason) :=
  match c.noImprovementThreshold with
  | some p => (Count.reaches streak p.count).map fun long =>
      if long then some (.noImprovementStreak p.count) else none
  | none => .ok none

/-- The first criterion that fires. -/
def firing (c : Criteria) (aborted : Bool) (s : State τ κ φ) : Except Slip (Option Reason) := do
  if aborted then return some .aborted
  if ← c.timeIsUp s.book.elapsed then return some .timeBudgetExceeded
  if ← c.itersAreUp s.book.iteration then return some .maxItersReached
  if ← c.targetIsMet s.book.bestCost then return some .targetCostReached
  match ← c.longStreak? s.book.noImprovementStreak with
  | some r => return some r
  | none => spentBudget? s.counts c.maxEvaluations.entries

end Criteria

/-- The reason to end a run in a state: that of the criteria, or else that of
the solver, if one is asked. -/
def checkTermination (c : Criteria) (early : Option (State τ κ φ → Except Fault (Option Reason)))
    (aborted : Bool) (s : State τ κ φ) : Except Fault (Option Reason) :=
  match c.firing aborted s with
  | .error e => .error (.slip e)
  | .ok (some r) => .ok (some r)
  | .ok none =>
    match early with
    | some ask => ask s
    | none => .ok none

end Minimize
