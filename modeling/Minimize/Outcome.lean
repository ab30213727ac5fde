-- The outcome of a run: the problem, the solver and the state as the run
-- left them, the failure that ended it, if one did, and the failures that it
-- got over. Outcomes are ordered by their best cost.
import Minimize.Solver.Basic
import Minimize.Arrange.Runs
import Minimize.State.Field

namespace Minimize

structure Outcome (τ : Type) (κ : Type := Int) (φ : Type := Bool) where
  problem : Problem
  solver : Solver τ
  state : State τ κ φ
  error : Option Fault
  warnings : List Fault

/-- A value in a form that can be written as JSON: arrays as lists, sequences
as lists, and what is not known by its text. -/
def Value.plainForm : Value → Value
  | .array t => t.toValue
  | .cell c => match c with
    | .whole _ i => .int i
    | .single x => .float x
    | .double x => .float x
    | .truth b => .bool b
    | .text s => .text s
    | .complex re im => .complex re im
    | .wideComplex re im => .complex re im
  | .tuple vs => .list vs
  | .dict es => .text (Value.dict es).shown
  | .bytes bs => .text (Value.bytes bs).shown
  | .complex re im => .text (Value.complex re im).shown
  | .sealed => .text Value.sealed.shown
  | v => v

namespace Outcome

variable {τ κ φ : Type}

def success (o : Outcome τ κ φ) : Bool := o.error.isNone

def bestCost (o : Outcome τ κ φ) : Value := o.state.book.bestCost

def bestParam (o : Outcome τ κ φ) : Value := o.state.book.bestParam

def iterations (o : Outcome τ κ φ) : κ := o.state.book.iteration

def reason? (o : Outcome τ κ φ) : Option Reason := o.state.status.reason

def solverName (o : Outcome τ κ φ) : String := o.solver.displayName

/-- The text of the reason, or of there being none. -/
def reasonText (o : Outcome τ κ φ) : String :=
  match o.reason? with
  | some r => r.message
  | none => "None"

def optionText : Option String → Value
  | some s => .text s
  | none => .null

/-- Whether what the end of the run is told by can be written. -/
def isWritable (o : Outcome τ Int φ) : Bool :=
  Text.isWritable o.iterations && o.reason?.all Reason.isWritable && o.bestCost.isWritable

/-- What the caller of the run gets: the outcome, unless the end of the run
cannot be told. -/
def handedBack (o : Outcome τ Int φ) : Except Fault (Outcome τ Int φ) :=
  if o.isWritable then .ok o else .error (.slip .tooManyDigits)

/-- The outcome in plain values. A best cost that is no number is a slip. -/
def summary [Span τ] [Count κ] [Flag φ] (o : Outcome τ κ φ) :
    Except Slip (List (String × Value)) := do
  let cost ← o.bestCost.toFloat
  return [("success", .bool o.success), ("solver", .text o.solverName),
    ("best_param", o.bestParam.plainForm), ("best_cost", .float cost),
    ("last_best_iteration", Plain.toValue o.state.book.lastBestIteration),
    ("iterations", Plain.toValue o.iterations),
    ("termination", optionText (o.reason?.map fun r => r.kind.name)),
    ("message", optionText (o.reason?.map Reason.message)),
    ("elapsed", Plain.toValue o.state.book.elapsed),
    ("counts", countsValue o.state.counts),
    ("error", optionText (o.error.map Fault.shown)),
    ("warnings", .list (o.warnings.map fun w => .text w.message))]

/-- The lines of the outcome for readers. Time that is no number is a
slip. -/
def lines [Span τ] [Count κ] (o : Outcome τ κ φ) : Except Slip (List String) := do
  let time ← Span.fixedText 6 o.state.book.elapsed
  return ["OptimizationResult:",
    "    param (best):  " ++ o.bestParam.shown,
    "    cost (best):   " ++ o.bestCost.plain,
    "    iters (best):  " ++ (Plain.toValue o.state.book.lastBestIteration).plain,
    "    iters (total): " ++ (Plain.toValue o.iterations).plain,
    "    termination:   " ++ o.reasonText,
    "    time:          " ++ time ++ "s"] ++
  (match o.error with
    | some f => ["    error:         " ++ f.shown]
    | none => [])

/-- The outcome, or the failure that ended the run. -/
def orError (o : Outcome τ κ φ) : Except Fault (Outcome τ κ φ) :=
  match o.error with
  | some f => .error f
  | none => .ok o

/-- Whether an outcome is better than another. -/
def less (a b : Outcome τ κ φ) : Except Slip Bool := a.bestCost.less b.bestCost

/-- Outcomes from the best to the worst. -/
def sorted (os : List (α × Outcome τ κ φ)) : Except Slip (List α) :=
  match Arrange.arranged (fun a b => less a.2 b.2) (fun o => o.2.bestCost.isRanked) os with
  | (os', none) => .ok (os'.map (·.1))
  | (_, some e) => .error e

/-- The best of the outcomes, the first of equals. -/
def best (o : α × Outcome τ κ φ) (os : List (α × Outcome τ κ φ)) : Except Slip α :=
  (Arrange.firstLeast (fun a b => less a.2 b.2) o os).map (·.1)

end Outcome

end Minimize
