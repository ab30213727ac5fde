-- The benchmark functions on values. A point is a sequence of numbers; the
-- sphere also takes a single one.
import Minimize.Benchmark.Basic
import Minimize.Problem.Basic
import Minimize.Value.Arithmetic

namespace Minimize.Benchmark

/-- What a value is as an argument: one number, or a row of them. -/
inductive Argument where
  | scalar (x : Float)
  | row (xs : List Float)

def argument (v : Value) : Except Slip Argument :=
  match v with
  | .list vs => (vs.mapM Value.toFloat).map .row
  | .tuple vs => (vs.mapM Value.toFloat).map .row
  | .array t => .ok (.row t.numbers)
  | _ => v.toFloat.map .scalar

/-- The row that a value is; a single number cannot be indexed. -/
def point (v : Value) : Except Slip (List Float) := do
  match ← argument v with
  | .row xs => return xs
  | .scalar _ => throw .badIndex

def vector (xs : List Float) : Value := .array (.ofFloats xs)

def matrix (rows : List (List Float)) : Value := .array (.row (rows.map .ofFloats))

def sphereValue (v : Value) : Except Slip Value := do
  match ← argument v with
  | .row xs => return .float (sphere xs)
  | .scalar x => return .float (x * x)

def sphereGradientValue (v : Value) : Except Slip Value := do
  match ← argument v with
  | .row xs => return vector (sphereGradient xs)
  | .scalar x => return .float (2 * x)

def rosenbrockValue (a b : Float) (v : Value) : Except Slip Value := do
  return .float (rosenbrock a b (← point v))

def rosenbrockGradientValue (a b : Float) (v : Value) : Except Slip Value := do
  return vector (rosenbrockGradient a b (← point v))

def rosenbrockHessianValue (b : Float) (v : Value) : Except Slip Value := do
  return matrix (rosenbrockHessian b (← point v))

/-- The benchmark functions by name. -/
def functions (a b : Float) : List (String × (Value → Except Slip Value)) :=
  [("sphere", sphereValue), ("sphere_gradient", sphereGradientValue),
    ("rosenbrock", rosenbrockValue a b), ("rosenbrock_gradient", rosenbrockGradientValue a b),
    ("rosenbrock_hessian", rosenbrockHessianValue b)]

/-- A user's function of one argument. -/
def unary (f : Value → Except Slip Value) : UserFunction := .computed fun
  | [v] => (f v).mapError .slip
  | _ => .error (.slip .wrongType)

/-- The Rosenbrock problem: cost, gradient and Hessian. -/
def rosenbrockProblem (a b : Float) : UserProblem where
  typeName? := some "Rosenbrock"
  shown := "<Rosenbrock>"
  function?
    | .cost => some (unary (rosenbrockValue a b))
    | .gradient => some (unary (rosenbrockGradientValue a b))
    | .hessian => some (unary (rosenbrockHessianValue b))
    | _ => none

end Minimize.Benchmark
