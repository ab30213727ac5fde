-- Solvers. A call of a solver is a small program: it asks for evaluations,
-- lets time pass, may raise a signal, may change in place what others hold
-- too, and ends with an answer. It works on a
-- state that is handed to it, which it may change on the way; what it leaves
-- of that state is told apart from what it answers, since a solver may hand
-- back the very state that it was given or another one.
import Minimize.Problem.Basic
import Minimize.State.Change

namespace Minimize

/-- What a solver hands back: a failure, something that is no answer, the
state that it was given, or another state. With a state may come a record. -/
inductive Answer (τ : Type) where
  | failed (f : Fault)
  | malformed (typeName : String)
  | same (record : Option Record)
  | other (s : State τ) (record : Option Record)

/-- A call of a solver. When it is done, `left` is the state that it was
given as the call leaves it. -/
inductive Call (τ : Type) where
  | done (left : State τ) (answer : Answer τ)
  | evaluate (c : Capability) (args : List Value) (next : Origin → Except Fault Value → Call τ)
  | change (c : Change) (next : Call τ)
  | wait (d : τ) (next : Call τ)
  | raise (signal : String) (next : Call τ)

/-- A solver. It carries nothing from one call to the next but what stands in
the state. -/
structure Solver (τ : Type) where
  typeName : String
  name? : Option String
  newState : ShapeKind
  opening : State τ → Call τ
  step : State τ → Call τ
  /-- The solver's answer when it is asked whether a run is to stop. -/
  terminateEarly : State τ → Except Fault (Option Reason)
  /-- The state as that question leaves it: the solver is asked with the state
  itself in hand. -/
  revised : State τ → State τ := id
  /-- Why the solver cannot be written to a checkpoint. -/
  unserializable : Option Fault

/-- The two calls that the engine makes of a solver. -/
inductive CallKind where
  | opening
  | step
  deriving DecidableEq, Repr

/-- The name of a call, as error texts give it. -/
def CallKind.methodName : CallKind → String
  | .opening => "initialize"
  | .step => "next_iteration"

/-- A solver together with a state: all that is needed to go on. -/
structure Snapshot (τ : Type) where
  solver : Solver τ
  state : State τ

variable {τ : Type}

namespace Call

/-- Ends with the state that was given. -/
def ok (s : State τ) (record : Option Record) : Call τ := .done s (.same record)

/-- Ends with a failure. -/
def fail (s : State τ) (f : Fault) : Call τ := .done s (.failed f)

/-- An evaluation that the call cannot go on without, with the origin of its
value. -/
def askWhence (s : State τ) (c : Capability) (args : List Value)
    (next : Origin → Value → Call τ) : Call τ :=
  .evaluate c args fun
    | origin, .ok v => next origin v
    | _, .error f => fail s f

/-- An evaluation that the call cannot go on without. -/
def ask (s : State τ) (c : Capability) (args : List Value) (next : Value → Call τ) : Call τ :=
  askWhence s c args fun _ => next

/-- A value that the call cannot go on without. -/
def need {α : Type} (s : State τ) (r : Except Slip α) (next : α → Call τ) : Call τ :=
  match r with
  | .ok a => next a
  | .error e => fail s (.slip e)

/-- A record that the call cannot go on without. -/
def tell (s : State τ) (r : Except Fault Record) (next : Record → Call τ) : Call τ :=
  match r with
  | .ok a => next a
  | .error f => fail s f

end Call

namespace Solver

/-- The name of the solver: its own, or that of its type if it has none. -/
def displayName (s : Solver τ) : String :=
  match s.name? with
  | some n => if n.isEmpty then s.typeName else n
  | none => s.typeName

def shown (s : Solver τ) : String := s.typeName ++ "()"

/-- The call of a kind. -/
def call (s : Solver τ) : CallKind → State τ → Call τ
  | .opening => s.opening
  | .step => s.step

end Solver

end Minimize
