-- One iteration. The solver is called; if it fails, the state from before
-- the call stands. The engine's bookkeeping is carried into the state that
-- came back, the end of the run is judged, the record is made, a checkpoint
-- is saved when one is due, and the observers are told, in that order. The
-- bookkeeping is that of before the call, but its best points are the very
-- values that the solver could lay hands on.
import Minimize.Executor.Basic
import Minimize.State.Best
import Minimize.Termination.Check

namespace Minimize

/-- A failure that ends a run, with the engine as it was left. -/
structure Failed (τ : Type) where
  fault : Fault
  engine : Engine τ

abbrev Attempt (τ : Type) := Except (Failed τ) (Engine τ)

/-- A state that came back from a solver, whether it is the one that the
solver was given, and the record that came with it. -/
structure Returned (τ : Type) where
  state : State τ
  inPlace : Bool
  record : Option Record

variable {τ : Type} [Clock τ]

omit [Clock τ] in
/-- The state in a solver's answer. -/
def Answer.returned (solver : Solver τ) (kind : CallKind) (left : State τ) :
    Answer τ → Except Fault (Returned τ)
  | .failed f => .error f
  | .malformed typeName =>
    .error (.malformedOutput solver.displayName kind.methodName typeName)
  | .same record => .ok ⟨left, true, record⟩
  | .other s record => .ok ⟨s, false, record⟩

omit [Clock τ] in
/-- The returned state behind the point and the cost of the state before. -/
def Returned.behind (r : Returned τ) (before : State τ) : Returned τ :=
  { r with state := { r.state with
      prevParam := before.param
      prevCost := before.cost
      sharing := (r.state.sharing.forget "prev_param").forget "prev_cost" } }

omit [Clock τ] in
/-- The returned state in its place: after a step it stands behind the state
before, and in the opening it has none before it. -/
def Returned.placed (r : Returned τ) : CallKind → State τ → Returned τ
  | .opening, _ => r
  | .step, before => r.behind before

/-- The iteration that a call is made for. -/
def CallKind.target : CallKind → Int → Int
  | .opening, i => i
  | .step, i => i + 1

namespace Engine

/-- What the call of the solver comes to. -/
def asked (kind : CallKind) (g : Engine τ) : Called τ :=
  let e := g.executor
  (e.solver.call kind e.state).run e.problem (g.world.note (.called kind e.state.book.iteration))

/-- Calls the solver. If it fails, the state is that of before the call. -/
def consult (kind : CallKind) (g : Engine τ) : Except (Failed τ) (Engine τ × Returned τ) :=
  let c := g.asked kind
  let e := { g.executor with
    problem := c.problem
    handed := g.executor.handed.map (State.afterAll · c.changes) }
  match c.answer.returned e.solver kind c.left with
  | .error f => .error ⟨f, { executor := e.moveTo c.left e.state, world := c.world }⟩
  | .ok r => .ok ({ executor := { e with state := c.left }, world := c.world }, r)

/-- The bookkeeping of before the call, with what the call did to the points in
it. -/
def kept (kind : CallKind) (g : Engine τ) : Bookkeeping τ :=
  g.executor.state.book.afterAll (g.asked kind).changes

/-- The time that has passed, if the run is timed. -/
def elapsed (g : Engine τ) (before started : τ) : τ :=
  if g.executor.settings.timer then
    Clock.passed g.executor.baseElapsed started g.world.clock
  else before

/-- The returned state with the engine's own fields in it. -/
def carried (g : Engine τ) (s : State τ) (book : Bookkeeping τ) (iteration : Int) (started : τ) :
    State τ :=
  { s with
    book := { book with iteration := iteration, elapsed := g.elapsed book.elapsed started }
    counts := g.executor.problem.counts.toTable }

/-- Takes the returned state over. If its cost cannot be compared, a state
that was changed in place stays as far as it was carried. -/
def merge (g : Engine τ) (r : Returned τ) (book : Bookkeeping τ) (iteration : Int) (started : τ) :
    Attempt τ :=
  let s := g.carried r.state book iteration started
  match s.recordBest with
  | .error e => .error ⟨.slip e, if r.inPlace then g.withState s else g⟩
  | .ok (s', improved) =>
    let e := if r.inPlace then { g.executor with state := s' }
      else g.executor.moveTo g.executor.state s'
    .ok { g with executor := { e with improved := improved } }

/-- The state as the check of the end leaves it. The solver is asked last, and
only if no criterion fires; then it can write into the state. -/
def questioned (g : Engine τ) : State τ :=
  let e := g.executor
  match e.settings.criteria.firing g.aborted e.state with
  | .ok none => e.solver.revised e.state
  | _ => e.state

/-- Ends the run if a criterion says so. -/
def judge (g : Engine τ) : Attempt τ :=
  let e := g.executor
  if e.state.terminated then .ok g
  else
    let g' := g.withState g.questioned
    match checkTermination e.settings.criteria (some e.solver.terminateEarly) g.aborted e.state with
    | .error f => .error ⟨f, g'⟩
    | .ok none => .ok g'
    | .ok (some r) =>
      match g.questioned.terminateWith r with
      | .error f => .error ⟨f, g'⟩
      | .ok s => .ok (g.withState s)

omit [Clock τ] in
/-- The record of an iteration: the standard entries, those of the solver over
them, and the reason of the end. -/
def fullRecord (standard : Record) (record : Option Record) (status : Status) : Record :=
  let merged := standard.merge (record.getD .empty)
  match status.reason with
  | some r => merged.insert "termination" (.text r.message)
  | none => merged

/-- Makes the record. With it the iteration is completed. -/
def complete (g : Engine τ) (record : Option Record) : Attempt τ :=
  let s := g.executor.state
  match s.summary with
  | .error f => .error ⟨f, g⟩
  | .ok standard =>
    let s' := { s with record := fullRecord standard record s.status }
    .ok ((g.withState s').note (.completed s'))

omit [Clock τ] in
/-- What comes of an attempt to save. Where saves must not fail, a failure
ends the run. -/
def afterSave (g : Engine τ) (p : Policy τ) : SaveResult → Attempt τ
  | .notDue => .ok g
  | .saved => .ok (g.note (.saved p.key g.executor.state.book.iteration))
  | .failed f => if p.fatal then .error ⟨f, g⟩ else .ok ((g.note (.saveFailed f)).warn [f])

omit [Clock τ] in
/-- Saves a checkpoint if one is due. -/
def save (g : Engine τ) (final : Bool) : Attempt τ :=
  match g.executor.policy with
  | none => .ok g
  | some p =>
    let s := g.executor.state
    let w := if p.isDue s.book.iteration final then
        g.world.note (.attempted p.key s.book.iteration) else g.world
    match p.maybeSave ⟨g.executor.solver, s⟩ final (w.cabinet p.cabinet) with
    | (p', c, r) =>
      afterSave { executor := { g.executor with policy := some p' }
                  world := w.putCabinet p.cabinet c } p r

omit [Clock τ] in
/-- Tells the observers of the iteration. -/
def dispatch (g : Engine τ) : Engine τ :=
  let e := g.executor
  let (w, fs) := e.observers.dispatch e.state.record e.state.book.iteration e.improved g.world
  ({ g with world := w } : Engine τ).warn fs

/-- The engine at the beginning of an iteration. -/
def enter (kind : CallKind) (g : Engine τ) : Engine τ :=
  match kind with
  | .opening =>
    let e := g.executor
    { g with executor := { e with baseElapsed := e.state.book.elapsed, phase := .initialized } }
  | .step => g.withPhase .running

/-- Calls the solver and takes over the state that it returns. -/
def take (kind : CallKind) (started : τ) (g : Engine τ) :
    Except (Failed τ) (Engine τ × Option Record) := do
  let before := g.executor.state
  let book := g.kept kind
  let (g, r) ← g.consult kind
  let g ← g.merge (r.placed kind before) book (kind.target before.book.iteration) started
  return (g, r.record)

/-- An iteration up to its record, with which it is completed. -/
def advance (kind : CallKind) (started : τ) (g : Engine τ) : Except (Failed τ) (Engine τ) := do
  let (g, record) ← (g.enter kind).take kind started
  let g ← g.judge
  g.complete record

/-- One iteration: the opening of a run, or one after it. -/
def iterate (kind : CallKind) (started : τ) (g : Engine τ) : Except (Failed τ) (Engine τ) := do
  let g ← g.advance kind started
  let g ← g.save false
  return g.dispatch

end Engine

end Minimize
