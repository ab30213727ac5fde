-- Functions to try solvers on: the sphere and the function of Rosenbrock,
-- with their derivatives. They are polynomials, so they are written for any
-- numbers that can be added, subtracted and multiplied, and every sum runs
-- from left to right.

namespace Minimize.Benchmark

variable {α : Type} [Add α] [Sub α] [Mul α] [Neg α]
  [OfNat α 0] [OfNat α 2] [OfNat α 4] [OfNat α 12]

def sum (xs : List α) : α := xs.foldl (· + ·) 0

/-- The sum of the squares. -/
def sphere (xs : List α) : α := sum (xs.map fun x => x * x)

def sphereGradient (xs : List α) : List α := xs.map (2 * ·)

/-! ## Rosenbrock

Each coordinate but the last stands together with the next one: the next one
should be its square, and it should be `a`. -/

/-- The coordinates with their successors. -/
def links (xs : List α) : List (α × α) := xs.zip xs.tail

/-- How far a coordinate is above the square of the one before. -/
def rise (l : α × α) : α := l.2 - l.1 * l.1

def rosenbrockTerm (a b : α) (l : α × α) : α :=
  b * (rise l * rise l) + (a - l.1) * (a - l.1)

def rosenbrock (a b : α) (xs : List α) : α := sum ((links xs).map (rosenbrockTerm a b))

/-- The slope of a term in its own coordinate. -/
def ownSlope (a b : α) (l : α × α) : α := -4 * b * l.1 * rise l - 2 * (a - l.1)

/-- The slope of a term in the next coordinate. -/
def nextSlope (b : α) (l : α × α) : α := 2 * b * rise l

/-- The gradient: each coordinate has the slope of its own term, the last one
none, and all but the first have the slope of the term before as well. -/
def rosenbrockGradient (a b : α) (xs : List α) : List α :=
  if xs.isEmpty then []
  else
    let own := (links xs).map (ownSlope a b) ++ [0]
    own.take 1 ++ List.zipWith (· + ·) (own.drop 1) ((links xs).map (nextSlope b))

/-- The curvature of a term in its own coordinate. -/
def ownCurvature (b : α) (l : α × α) : α := 12 * b * (l.1 * l.1) - 4 * b * l.2 + 2

/-- The entry of the Hessian in row `i` and column `j`. -/
def rosenbrockHessianEntry (b : α) (xs : List α) (i j : Nat) : α :=
  if i = j then
    let before := if i = 0 then 0 else 0 + 2 * b
    match (links xs)[i]? with
    | some l => before + ownCurvature b l
    | none => before
  else if j = i + 1 then -4 * b * xs.getD i 0
  else if i = j + 1 then -4 * b * xs.getD j 0
  else 0

def rosenbrockHessian (b : α) (xs : List α) : List (List α) :=
  (List.range xs.length).map fun i =>
    (List.range xs.length).map fun j => rosenbrockHessianEntry b xs i j

end Minimize.Benchmark
