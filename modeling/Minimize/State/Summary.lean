-- The standard entries of a record: what is told about every iteration,
-- whatever the solver.
import Minimize.State.Basic

namespace Minimize

variable {τ κ φ : Type} [Span τ] [Count κ]

/-- A count as the scalar of a record. -/
def countScalar (name : String) (n : κ) : Except Fault Scalar :=
  Scalar.coerce name (Plain.toValue n)

/-- The entry of a counter, if it has counted. -/
def countEntry? (e : String × κ) : Except Fault (Option (String × Scalar)) :=
  match Count.counted e.2 with
  | .error s => .error (.slip s)
  | .ok false => .ok none
  | .ok true => (countScalar e.1 e.2).map fun n => some (e.1, n)

/-- The counters that have counted, by name. -/
def countEntries (counts : Table κ) : Except Fault (List (String × Scalar)) :=
  ((counts.entries.mergeSort fun a b => a.1 ≤ b.1).mapM countEntry?).map fun es =>
    es.filterMap id

namespace State

omit [Span τ] [Count κ] in
/-- What the shape adds to the record. -/
def shapeEntries (s : State τ κ φ) : List (String × Scalar) :=
  match s.shape with
  | .population ms => [("population_size", .int ms.length)]
  | _ => []

/-- The record of the state. A cost that is no number is a slip. -/
def summary (s : State τ κ φ) : Except Fault Record := do
  let iteration ← countScalar "iter" s.book.iteration
  let cost ← s.cost.toFloat.mapError .slip
  let best ← s.book.bestCost.toFloat.mapError .slip
  let lastBest ← countScalar "last_best_iter" s.book.lastBestIteration
  let streak ← countScalar "no_improvement_streak" s.book.noImprovementStreak
  let time ← (Span.toFloat s.book.elapsed).mapError .slip
  let counts ← countEntries s.counts
  return .ofList ([("iter", iteration), ("cost", .float cost), ("best_cost", .float best),
    ("last_best_iter", lastBest), ("no_improvement_streak", streak), ("time", .float time)] ++
    counts ++ s.shapeEntries)

end State

end Minimize
