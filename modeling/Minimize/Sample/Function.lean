-- Small problems to run solvers on, built of functions that can be named:
-- constants, sums, sums of squares, and functions that fail.
import Minimize.Problem.Basic
import Minimize.Value.Arithmetic

namespace Minimize.Sample

/-- What can stand for a capability. A value that is no function cannot be
called. -/
inductive Function where
  | const (v : Value)
  | identity
  | float
  | sum
  | squares
  | scale (k : Value)
  | shift
  | fail (f : Fault)
  | value (v : Value)

namespace Function

/-- The functions by name. The constant one and the one that scales take a
value. -/
def named (v : Value) : List (String × Function) :=
  [("const", .const v), ("identity", .identity), ("float", .float), ("sum", .sum),
    ("sumsq", .squares), ("scale", .scale v), ("shift", .shift)]

/-- The sum of a function over the elements, from left to right. -/
def total (f : Value → Except Slip Value) (v : Value) : Except Slip Value := do
  Value.total (← (← v.elements).mapM f)

/-- A function of one argument on values. -/
def one (f : Value → Except Slip Value) : UserFunction := .computed fun
  | [x] => (f x).mapError .slip
  | _ => .error (.slip .wrongType)

def each (f : Value → Except Slip Value) (v : Value) : Except Slip Value := do
  return .list (← (← v.elements).mapM f)

/-- A point moved by a temperature. -/
def shifted : List Value → Except Fault Value
  | [x, t] => (each (·.plus t) x).mapError .slip
  | _ => .error (.slip .wrongType)

/-- The function, if it can be called. -/
def callable? : Function → Option UserFunction
  | .const v => some (.constant v)
  | .identity => some .handsBack
  | .float => some (one fun x => x.toFloat.map .float)
  | .sum => some (one (total .ok))
  | .squares => some (one (total fun x => x.times x))
  | .scale k => some (one (each k.times))
  | .shift => some (.computed shifted)
  | .fail f => some (.computed fun _ => .error f)
  | .value _ => none

end Function

/-- Functions for capabilities. -/
abbrev Offer := List (Capability × Function)

namespace Offer

def get? (o : Offer) (c : Capability) : Option Function :=
  (List.find? (fun e => e.1 = c) o).map (·.2)

def function? (o : Offer) (c : Capability) : Option UserFunction :=
  (o.get? c).bind Function.callable?

end Offer

/-- An object with attributes; those that cannot be called are no
capabilities. -/
def attributeProblem (o : Offer) : UserProblem :=
  ⟨some "Custom", "<Custom>", o.function?⟩

/-- The first capability for which something was given that cannot be
called. Nothing at all counts as not given. -/
def firstUncallable? (o : Offer) : Option (Capability × Value) :=
  Capability.all.findSome? fun c => match o.get? c with
    | some (.value .null) => none
    | some (.value v) => some (c, v)
    | _ => none

/-- A problem assembled from functions, with anything for its name. -/
def functionProblem (o : Offer) (name : Value) : Except Fault UserProblem :=
  match firstUncallable? o with
  | some (c, v) => .error (.argument (.notCallable c.name v.typeText))
  | none =>
    .ok ⟨some "FunctionProblem", "FunctionProblem(name=" ++ name.shown ++ ")", o.function?⟩

/-- The cost is the point itself. -/
def linearProblem : UserProblem :=
  ⟨some "LinearCost", "<LinearCost>", Offer.function? [(.cost, .float)]⟩

/-- The cost is the sum of the squares, with its gradient. -/
def squaresProblem : UserProblem :=
  ⟨some "SumSquares", "<SumSquares>",
    Offer.function? [(.cost, .squares), (.gradient, .scale (.float (Number.ofInt 2)))]⟩

end Minimize.Sample
