-- The state of a run: where the solver stands, what the engine keeps about
-- the run, and what the shape of the algorithm adds. The engine's part is
-- the bookkeeping: solvers may write into it, and the engine puts it right.
import Minimize.Span
import Minimize.Record
import Minimize.State.Sharing
import Minimize.Termination.Reason

namespace Minimize

/-- One member of a population, with the mark of its point if others may hold
it too. -/
structure Individual where
  param : Value
  cost : Value
  data : Value
  mark? : Option Nat := none
  deriving Inhabited

/-- What the solvers of a single point compute. What is `null` is not set. -/
structure Derivatives where
  gradient : Value
  prevGradient : Value
  jacobian : Value
  hessian : Value
  invHessian : Value
  residuals : Value

/-- What the shape of the algorithm adds to a state. -/
inductive Shape where
  | base
  | linearProgram
  | point (d : Derivatives)
  | population (members : List Individual)

/-- What the engine keeps about a run: the iteration, the best point so far
with the one before it, and the time that has passed. -/
structure Bookkeeping (τ : Type) (κ : Type := Int) (φ : Type := Bool) where
  iteration : κ
  bestParam : Value
  prevBestParam : Value
  bestCost : Value
  prevBestCost : Value
  hasBest : φ
  lastBestIteration : κ
  noImprovementStreak : κ
  elapsed : τ

/-- The state of a run. -/
structure State (τ : Type) (κ : Type := Int) (φ : Type := Bool) where
  param : Value
  prevParam : Value
  cost : Value
  prevCost : Value
  book : Bookkeeping τ κ φ
  counts : Table κ
  status : Status
  record : Record
  shape : Shape
  /-- Which fields hold one and the same value. -/
  sharing : Sharing := .none

/-- The shapes by name. -/
inductive ShapeKind where
  | base
  | linearProgram
  | point
  | population
  deriving DecidableEq, Repr

/-- The cost of what has not been evaluated. -/
def Value.unevaluated : Value := .float Number.infinity

namespace Derivatives

def unset : Derivatives := ⟨.null, .null, .null, .null, .null, .null⟩

/-- The derivatives under their names. -/
def named (d : Derivatives) : List (String × Value) :=
  [("gradient", d.gradient), ("prev_gradient", d.prevGradient), ("jacobian", d.jacobian),
    ("hessian", d.hessian), ("inv_hessian", d.invHessian), ("residuals", d.residuals)]

/-- The derivatives with another value under a name, if the name is one of
theirs. -/
def set? (d : Derivatives) (name : String) (v : Value) : Option Derivatives :=
  if name = "gradient" then some { d with gradient := v }
  else if name = "prev_gradient" then some { d with prevGradient := v }
  else if name = "jacobian" then some { d with jacobian := v }
  else if name = "hessian" then some { d with hessian := v }
  else if name = "inv_hessian" then some { d with invHessian := v }
  else if name = "residuals" then some { d with residuals := v }
  else none

end Derivatives

namespace ShapeKind

/-- The shape of a name. A name of none of them stands for a single point. -/
def ofName (s : String) : ShapeKind :=
  match s with
  | "base" => .base
  | "lp" => .linearProgram
  | "population" => .population
  | _ => .point

/-- The shape with nothing in it yet. -/
def fresh : ShapeKind → Shape
  | .base => .base
  | .linearProgram => .linearProgram
  | .point => .point .unset
  | .population => .population []

end ShapeKind

namespace Shape

def kind : Shape → ShapeKind
  | .base => .base
  | .linearProgram => .linearProgram
  | .point _ => .point
  | .population _ => .population

/-- The name of a state of this shape. -/
def typeName : Shape → String
  | .base => "State"
  | .linearProgram => "LinearProgramState"
  | .point _ => "IterState"
  | .population _ => "PopulationState"

/-- The members of a population; other shapes have none to speak of. -/
def members? : Shape → Option (List Individual)
  | .population ms => some ms
  | _ => none

def derivatives? : Shape → Option Derivatives
  | .point d => some d
  | _ => none

/-- The names of what the shape adds and has set. -/
def extensionNames : Shape → List String
  | .point d => (d.named.filter fun e => match e.2 with
      | .null => false
      | _ => true).map (·.1)
  | .population (_ :: _) => ["population"]
  | _ => []

end Shape

variable {τ κ φ : Type}

/-- Nothing recorded yet. -/
def Bookkeeping.fresh [Span τ] [Count κ] [Flag φ] : Bookkeeping τ κ φ where
  iteration := Count.zero
  bestParam := .null
  prevBestParam := .null
  bestCost := .unevaluated
  prevBestCost := .unevaluated
  hasBest := Flag.ofBool false
  lastBestIteration := Count.zero
  noImprovementStreak := Count.zero
  elapsed := Span.zero

namespace State

/-- The state before a run. -/
def fresh [Span τ] [Count κ] [Flag φ] (kind : ShapeKind) : State τ κ φ where
  param := .null
  prevParam := .null
  cost := .unevaluated
  prevCost := .unevaluated
  book := .fresh
  counts := .empty
  status := .running
  record := .empty
  shape := kind.fresh

def typeName (s : State τ κ φ) : String := s.shape.typeName

def terminated (s : State τ κ φ) : Bool := s.status.terminated

/-- The state with the bookkeeping of another moment. -/
def restore (s : State τ κ φ) (b : Bookkeeping τ κ φ) : State τ κ φ := { s with book := b }

/-- Whether the current iteration gave the best point. Where there is none,
the answer is the flag that says so. -/
def isBest [Count κ] [Flag φ] (s : State τ κ φ) : Except Slip φ := do
  if ← Flag.holds s.book.hasBest then
    return Flag.ofBool (Count.same s.book.lastBestIteration s.book.iteration)
  return s.book.hasBest

/-- The state stopped for a reason. A state stops once. -/
def terminateWith (s : State τ κ φ) (r : Reason) : Except Fault (State τ κ φ) :=
  match s.status.reason with
  | some standing => .error (.lifecycle (.terminatedTwice standing.message r.message))
  | none => .ok { s with status := ⟨some r⟩ }

end State

end Minimize
