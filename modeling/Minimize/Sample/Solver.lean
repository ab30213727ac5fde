-- Small solvers whose runs can be followed by hand: one that counts down,
-- one that replays a list of costs, one that descends along the gradient,
-- and one that halves a population.
import Minimize.Solver.Basic
import Minimize.State.Change
import Minimize.State.Population

namespace Minimize.Sample

variable {τ : Type}

/-- Looks for no early end. -/
def goOn (_ : State τ) : Except Fault (Option Reason) := .ok none

def entry (key : String) (v : Value) : Except Fault Record := Record.set Table.empty key v

/-! ## Counting down -/

/-- Starts at `start` and goes down by `by`; a step goes on with a copy. -/
def countdown (start by' : Value) : Solver τ where
  typeName := "CountdownSolver"
  name? := none
  newState := .point
  opening s :=
    let s1 := s.movedTo start
    .ask s1 .cost [start] fun c =>
      let s2 := { s1 with cost := c }
      .tell s2 (entry "step" by') fun r => .ok s2 r
  step s :=
    .need s (s.param.minus by') fun p =>
      .ask s .cost [p] fun c =>
        .tell s (entry "step" by') fun r =>
          .done s (.other { s.movedTo p with cost := c } r)
  terminateEarly := goOn
  unserializable := none

/-! ## Replaying costs -/

/-- The item at a position counted from the front, or from the back if it is
below zero. -/
def nth (vs : List Value) (i : Int) : Except Slip Value :=
  let j := if i < 0 then i + vs.length else i
  if j < 0 then .error .badIndex
  else match vs[j.toNat]? with
    | some v => .ok v
    | none => .error .badIndex

/-- Replays costs, and stays at the last. -/
def sequence (costs : List Value) : Solver τ where
  typeName := "SequenceSolver"
  name? := none
  newState := .point
  opening s := .need s (nth costs 0) fun c => .ok { s.movedTo c with cost := c } none
  step s :=
    .need s (nth costs (min (s.book.iteration + 1) (costs.length - 1))) fun c =>
      .ok { s.movedTo c with cost := c } none
  terminateEarly := goOn
  unserializable := none

/-! ## Descending -/

/-- The greatest magnitude of the entries. -/
def greatest : List Float → Except Slip Float
  | [] => .error .badValue
  | x :: xs => .ok ((xs.map Float.abs).foldl (fun m y => if Number.less m y then y else m) x.abs)

/-- The elements as floats. -/
def realsOf (v : Value) : Except Slip (List Float) := do
  (← v.elements).mapM Value.toFloat

/-- The point one step down a gradient. -/
def downhill (by' : Value) (param : Value) (g : List Float) : Except Slip Value := do
  let steps := (← param.elements).zip g
  return .list (← steps.mapM fun e => do e.1.minus (← by'.times (.float e.2)))

/-- The state at a point with a gradient, behind which the last one stands. -/
def withGradient (s : State τ) (param gradient : Value) : State τ :=
  match s.shape with
  | .point d =>
    { s.movedTo param with
      shape := .point { d with prevGradient := d.gradient, gradient := gradient } }
  | _ => s.movedTo param

/-- Whether the greatest entry of the gradient is below the tolerance. -/
def isFlat (tol : Value) (s : State τ) : Except Slip Bool :=
  match s.shape with
  | .point ⟨.null, _, _, _, _, _⟩ => .ok false
  | .point d => do Value.less (.float (← greatest (← realsOf d.gradient))) tol
  | _ => .error .missingAttribute

/-- Goes down the gradient by a fixed step, in place, until it is flat. -/
def descent (by' tol : Value) : Solver τ where
  typeName := "DescentSolver"
  name? := some "steepest descent"
  newState := .point
  opening s := .ask s .cost [s.param] fun c => .ok { s with cost := c } none
  step s :=
    .ask s .gradient [s.param] fun gv =>
      .need s (realsOf gv) fun g =>
        .need s (downhill by' s.param g) fun p =>
          let s1 := withGradient s p (.floats g)
          .ask s1 .cost [p] fun c =>
            let s2 := { s1 with cost := c }
            .need s2 (greatest g) fun m =>
              .tell s2 (entry "gmax" (.float m)) fun r => .ok s2 r
  terminateEarly s := match isFlat tol s with
    | .ok flat => .ok (if flat then some .solverConverged else none)
    | .error e => .error (.slip e)
  unserializable := none

/-! ## Halving -/

/-- Evaluates points one after the other and goes on with the individuals. -/
def evaluateAll (s : State τ) (next : List Individual → Call τ) : List Value → Call τ
  | [] => next []
  | p :: ps =>
    .ask s .cost [.list [p]] fun c =>
      evaluateAll s (fun ms => next ({ param := p, cost := c, data := .dict [] } :: ms)) ps

def halved (v : Value) : Except Slip Value := v.times (.float (Number.ofQuotient false 1 2))

/-- Halves every individual of a population. -/
def halving (starts : List Value) : Solver τ where
  typeName := "HalvingSolver"
  name? := none
  newState := .population
  opening s :=
    evaluateAll s (fun ms =>
      let s1 := s.populated ms
      .need s1 s1.takeBestIndividual fun (s2, _) =>
        .tell s2 (entry "population_size" (.int ms.length)) fun r => .ok s2 r) starts
  step s :=
    .need s ((s.shape.members?.getD []).mapM fun m => halved m.param) fun ps =>
      evaluateAll s (fun ms =>
        let (s1, sorted) := (s.populated ms).sortPopulation
        .need s1 (do let _ ← sorted; s1.takeBestIndividual) fun (s2, _) => .ok s2 none) ps
  terminateEarly := goOn
  unserializable := none

end Minimize.Sample
