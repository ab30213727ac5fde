-- Populations: arranged by cost, and led by their best member, whose point
-- the state then holds in common with it.
import Minimize.Arrange.Runs
import Minimize.State.Basic

namespace Minimize

namespace Individual

/-- Whether an individual costs less than another. -/
def cheaper (a b : Individual) : Except Slip Bool := a.cost.less b.cost

end Individual

variable {τ κ φ : Type}

namespace State

/-- Members with the marks from a number on. -/
def numbered : Nat → List Individual → List Individual
  | _, [] => []
  | n, m :: ms => { m with mark? := some n } :: numbered (n + 1) ms

/-- The state with a population of its own, of which it holds no point yet. -/
def populated (s : State τ κ φ) (ms : List Individual) : State τ κ φ :=
  { s with
    shape := .population (numbered s.sharing.next ms)
    sharing := { s.sharing.forget "population" with next := s.sharing.next + ms.length } }

/-- The state with its population by ascending cost. A state of another
shape has no population to sort. If two costs cannot be compared, the
population stays as far as it was sorted. -/
def sortPopulation (s : State τ κ φ) : State τ κ φ × Except Slip Unit :=
  match s.shape with
  | .population ms =>
    let (ms', trouble) := Arrange.arranged Individual.cheaper (·.cost.isRanked) ms
    ({ s with shape := .population ms' }, match trouble with
      | none => .ok ()
      | some e => .error e)
  | _ => (s, .error .missingAttribute)

/-- The cheapest individual, the first of equals. -/
def bestIndividual? (s : State τ κ φ) : Except Slip (Option Individual) :=
  match s.shape with
  | .population [] => .ok none
  | .population (m :: ms) => (Arrange.firstLeast Individual.cheaper m ms).map some
  | _ => .error .missingAttribute

/-- The state at an individual, with its very point. -/
def atIndividual (s : State τ κ φ) (m : Individual) : State τ κ φ :=
  let apart := s.sharing.forget "cost"
  { s with
    param := m.param
    cost := m.cost
    sharing := match m.mark? with
      | some n => apart.hold "param" (.numbered n)
      | none => apart.forget "param" }

/-- The state at its best individual; an empty population leaves it where it
is. -/
def takeBestIndividual (s : State τ κ φ) : Except Slip (State τ κ φ × Option Individual) :=
  s.bestIndividual?.map fun
    | some m => (s.atIndividual m, some m)
    | none => (s, none)

end State

end Minimize
