-- An executor binds a problem, a solver and a state, with the settings, the
-- observers and the checkpoints of the run. It is built up while it is
-- created, runs once, and cannot be changed after that.
import Minimize.Checkpoint.Policy
import Minimize.Observer.Registry
import Minimize.Settings.Basic

namespace Minimize

/-- Where an executor is in its life. -/
inductive Phase where
  | created
  | initialized
  | running
  | terminated
  deriving DecidableEq, Repr

def Phase.name : Phase → String
  | .created => "created"
  | .initialized => "initialized"
  | .running => "running"
  | .terminated => "terminated"

structure Executor (τ : Type) where
  problem : Problem
  solver : Solver τ
  state : State τ
  settings : Settings
  observers : Registry τ
  policy : Option (Policy τ)
  /-- The number of the signal that aborts the run. -/
  signal : Option Nat
  phase : Phase
  warnings : List Fault
  /-- The time that had passed before this run. -/
  baseElapsed : τ
  /-- Whether the last completed iteration gave the best point. -/
  improved : Bool
  /-- The state that the caller handed in, as it was left, once the executor
  has gone on to another one. -/
  handed : Option (State τ)

/-- An executor in its world. -/
structure Engine (τ : Type) where
  executor : Executor τ
  world : World τ

variable {τ : Type} [Clock τ]

namespace Executor

/-- An executor for a problem and a solver. Without a state it starts from
the state that the solver starts from. -/
def create (problem : Problem) (solver : Given (Solver τ)) (state : Option (Given (State τ)))
    (settings : Settings) : Except Fault (Executor τ) := do
  let solver ← match solver with
    | .proper s => pure s
    | .other v => throw (.configuration (.notSolver v.typeName))
  let state ← match state with
    | none => pure (State.fresh solver.newState)
    | some (.proper s) => pure s
    | some (.other v) => throw (.configuration (.notState v.typeName))
  return {
    problem, solver, state, settings, observers := .empty, policy := none, signal := none
    phase := .created, warnings := [], baseElapsed := Span.zero, improved := false
    handed := none }

omit [Clock τ] in
/-- What can be done only in a phase. -/
def require (e : Executor τ) (phase : Phase) (action : String) : Except Fault Unit :=
  if e.phase = phase then .ok ()
  else .error (.lifecycle (.wrongPhase action e.phase.name))

omit [Clock τ] in
/-- The executor with changed settings. -/
def configure (e : Executor τ) (changes : Table Value) : Except Fault (Executor τ) := do
  e.require .created "configure"
  return { e with settings := ← e.settings.updated changes }

omit [Clock τ] in
/-- The executor with a checkpoint policy. -/
def checkpointing (e : Executor τ) (cabinet : String) (store : Given (Store τ)) (key : Value)
    (frequency : Frequency) (fatal resume : Bool) : Except Fault (Executor τ) := do
  e.require .created "configure checkpointing"
  return { e with policy := some (← Policy.create cabinet store key frequency fatal resume) }

omit [Clock τ] in
/-- The executor with a signal that aborts it. -/
def abortSignal (e : Executor τ) (signal : Nat) : Except Fault (Executor τ) := do
  e.require .created "set the abort signal"
  return { e with signal := some signal }

omit [Clock τ] in
/-- The name of the run: its label, or else the solver's name. -/
def runName (e : Executor τ) : String :=
  match e.settings.runName with
  | some n => if n.isEmpty then e.solver.displayName else n
  | none => e.solver.displayName

omit [Clock τ] in
/-- The executor on another state; the one that it had stays with the caller
as it is, if it was the caller's. -/
def moveTo (e : Executor τ) (left s : State τ) : Executor τ :=
  { e with state := s, handed := e.handed.or (some left) }

end Executor

namespace Engine

omit [Clock τ] in
/-- Adds an observer. What its setup did to the world stays, whether or not
it is registered; and so does its registration if it cannot be told of. -/
def observe (g : Engine τ) (name : String) (given : Given (Observer τ)) (mode : Mode) :
    Engine τ × Except Fault Unit :=
  match g.executor.require .created "add observers" with
  | .error f => (g, .error f)
  | .ok () =>
    let (r, w, answer) := g.executor.observers.add name given mode g.world
    ({ executor := { g.executor with observers := r }, world := w }, answer)

omit [Clock τ] in
/-- Whether the executor's signal is raised. -/
def aborted (g : Engine τ) : Bool :=
  match g.executor.signal with
  | some s => g.world.isRaised s
  | none => false

omit [Clock τ] in
def note (g : Engine τ) (e : Event τ) : Engine τ := { g with world := g.world.note e }

omit [Clock τ] in
def withState (g : Engine τ) (s : State τ) : Engine τ :=
  { g with executor := { g.executor with state := s } }

omit [Clock τ] in
def withPhase (g : Engine τ) (p : Phase) : Engine τ :=
  { g with executor := { g.executor with phase := p } }

omit [Clock τ] in
/-- More failures that the run got over. -/
def warn (g : Engine τ) (fs : List Fault) : Engine τ :=
  { g with executor := { g.executor with warnings := g.executor.warnings ++ fs } }

end Engine

end Minimize
