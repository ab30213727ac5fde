-- The fields of a state by name: to show them, and to set them from plain
-- values. Bookkeeping can be taken as named values and laid over a state.
import Minimize.State.Basic

namespace Minimize

variable {τ κ φ : Type} [Span τ] [Count κ] [Flag φ]

def countsValue (counts : Table κ) : Value :=
  .dict (counts.entries.map fun e => (.text e.1, Plain.toValue e.2))

/-- A counter with its number. -/
def countOf? : Value × Value → Option (String × κ)
  | (.text k, v) => (Plain.ofValue? v).map fun n => (k, n)
  | _ => none

/-- Counters given as a dictionary. -/
def countsOfValue? : Value → Option (Table κ)
  | .dict es => (es.mapM countOf?).map Table.ofList
  | _ => none

namespace Bookkeeping

/-- The names of the bookkeeping fields, in order. -/
def fieldNames : List String :=
  ["iteration", "best_param", "prev_best_param", "best_cost", "prev_best_cost", "has_best",
    "last_best_iteration", "no_improvement_streak", "elapsed"]

/-- The bookkeeping as named values. -/
def named (b : Bookkeeping τ κ φ) : List (String × Value) :=
  [("iteration", Plain.toValue b.iteration), ("best_param", b.bestParam),
    ("prev_best_param", b.prevBestParam), ("best_cost", b.bestCost),
    ("prev_best_cost", b.prevBestCost), ("has_best", Plain.toValue b.hasBest),
    ("last_best_iteration", Plain.toValue b.lastBestIteration),
    ("no_improvement_streak", Plain.toValue b.noImprovementStreak),
    ("elapsed", Plain.toValue b.elapsed)]

/-- The bookkeeping with another value under a name. -/
def set? (b : Bookkeeping τ κ φ) (name : String) (v : Value) : Option (Bookkeeping τ κ φ) :=
  match name with
  | "iteration" => (Plain.ofValue? v).map fun n => { b with iteration := n }
  | "best_param" => some { b with bestParam := v }
  | "prev_best_param" => some { b with prevBestParam := v }
  | "best_cost" => some { b with bestCost := v }
  | "prev_best_cost" => some { b with prevBestCost := v }
  | "has_best" => (Plain.ofValue? v).map fun t => { b with hasBest := t }
  | "last_best_iteration" => (Plain.ofValue? v).map fun n => { b with lastBestIteration := n }
  | "no_improvement_streak" => (Plain.ofValue? v).map fun n => { b with noImprovementStreak := n }
  | "elapsed" => (Plain.ofValue? v).map fun x => { b with elapsed := x }
  | _ => none

/-- Lays named values over the bookkeeping, field by field, and tells whether
one was missing; then the fields after it stand as they were. -/
def lay (given : Table Value) (b : Bookkeeping τ κ φ) : List String → Bookkeeping τ κ φ × Bool
  | [] => (b, true)
  | name :: names =>
    match given.get? name with
    | some v => lay given ((b.set? name v).getD b) names
    | none => (b, false)

end Bookkeeping

namespace State

/-- The state with the named bookkeeping laid over it. A name that is missing
is a slip, and the fields before it stay laid. -/
def restoreNamed (s : State τ κ φ) (given : Table Value) : State τ κ φ × Except Slip Unit :=
  let (book, complete) := s.book.lay given Bookkeeping.fieldNames
  (s.restore book, if complete then .ok () else .error .missingKey)

omit [Span τ] [Count κ] [Flag φ] in
/-- The state with another value in a field of the solver's. -/
def put? (s : State τ κ φ) (name : String) (v : Value) : Option (State τ κ φ) :=
  match name with
  | "param" => some { s with param := v }
  | "prev_param" => some { s with prevParam := v }
  | "cost" => some { s with cost := v }
  | "prev_cost" => some { s with prevCost := v }
  | _ =>
    match s.shape with
    | .point d => (d.set? name v).map fun d' => { s with shape := .point d' }
    | _ => none

/-- The state with a value of its own in a field, if the state has the field
and the value fits it. -/
def set? (s : State τ κ φ) (name : String) (v : Value) : Option (State τ κ φ) :=
  match s.put? name v with
  | some s' => some { s' with sharing := s.sharing.forget name }
  | none =>
    match name with
    | "counts" => (countsOfValue? v).map fun c => { s with counts := c }
    | _ => (s.book.set? name v).map s.restore

/-- The plain fields of the state by name. -/
def named (s : State τ κ φ) : List (String × Value) :=
  [("param", s.param), ("prev_param", s.prevParam), ("cost", s.cost),
    ("prev_cost", s.prevCost)] ++ s.book.named ++ [("counts", countsValue s.counts)] ++
    (match s.shape with
      | .point d => d.named
      | _ => [])

end State

end Minimize
