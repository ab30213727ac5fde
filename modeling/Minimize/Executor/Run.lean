-- A run: it goes on from a stored checkpoint or starts with an opening, and
-- then takes one iteration after another until its state is terminated.
-- Whatever fails in between, the run ends with an outcome, and the observers
-- are told of it. Last of all the end is told to the log; where it cannot be
-- told, the outcome is not handed back.
import Minimize.Executor.Step

namespace Minimize

variable {τ : Type} [Clock τ]

namespace Engine

omit [Clock τ] in
/-- The names in a table that are no counters. -/
def ignoredNames (t : Table Int) : List String :=
  t.keys.filter fun k => (Capability.ofCounter? k).isNone

omit [Clock τ] in
/-- Goes on from a snapshot. A run that was aborted is opened again. -/
def resume (g : Engine τ) (s : Snapshot τ) : Engine τ :=
  let e := g.executor
  let state := (s.state.renumbered e.state.sharing.next).settled
  let problem := { e.problem with counts := e.problem.counts.overlay s.state.counts }
  let w := (ignoredNames s.state.counts).foldl (fun w n => w.note (.ignoredCounter n)) g.world
  let g1 : Engine τ :=
    { executor := { e.moveTo e.state state with
        solver := s.solver, problem := problem, baseElapsed := s.state.book.elapsed
        phase := .running }
      world := w }
  match s.state.status.reason with
  | some ⟨.aborted, _, _⟩ =>
    (g1.note (.reopened s.state.book.iteration)).withState { state with status := .running }
  | _ => g1

omit [Clock τ] in
/-- A run has nothing in common with the problems of runs before it. -/
def settled (g : Engine τ) : Engine τ := g.withState g.executor.state.settled

/-- The stored snapshot, if the run is to go on from one. -/
def stored (g : Engine τ) : Except Fault (Option (Snapshot τ)) :=
  match g.executor.policy with
  | none => .ok none
  | some p => p.load (g.world.cabinet p.cabinet)

omit [Clock τ] in
/-- Notes that a snapshot was loaded. -/
def noteLoaded (g : Engine τ) (s : Snapshot τ) : Engine τ :=
  match g.executor.policy with
  | none => g
  | some p =>
    ({ g with executor := { g.executor with policy := some (p.loaded (some s)) } } : Engine τ).note
      (.resumed p.key s.state.book.iteration)

/-- The beginning of a run. -/
def start (started : τ) (g : Engine τ) : Attempt τ :=
  match g.stored with
  | .error f => .error ⟨f, g⟩
  | .ok (some s) => .ok ((g.settled.noteLoaded s).resume s)
  | .ok none => g.settled.iterate .opening started

/-- Iterations until the state is terminated; nothing if there are more of
them than allowed. -/
def loop (started : τ) : Nat → Engine τ → Option (Attempt τ)
  | limit, g =>
    if g.executor.state.terminated then some (.ok g)
    else
      match limit with
      | 0 => none
      | limit + 1 =>
        match g.iterate .step started with
        | .ok g' => loop started limit g'
        | .error f => some (.error f)

/-- The rest of a run that has started, up to its end or its failure. -/
def onward (started : τ) (limit : Nat) (g : Engine τ) : Option (Attempt τ) :=
  match loop started limit g with
  | none => none
  | some (.error f) => some (.error f)
  | some (.ok g') => some (g'.save true)

/-- The whole run up to its end or its failure. -/
def attempt (limit : Nat) (g : Engine τ) : Option (Attempt τ) :=
  let started := g.world.clock
  match g.start started with
  | .error f => some (.error f)
  | .ok g' => g'.onward started limit

omit [Clock τ] in
/-- The state of a run that failed: terminated by the failure, unless it was
terminated before. -/
def markFailed (g : Engine τ) (name : String) (f : Fault) : Engine τ :=
  let s := g.executor.state
  let g1 := g.note (.failed name s.book.iteration f)
  if s.terminated then g1 else g1.withState { s with status := ⟨some (.error f)⟩ }

omit [Clock τ] in
/-- The outcome as the engine stands. -/
def outcome (g : Engine τ) (error : Option Fault) : Outcome τ :=
  let e := g.executor
  ⟨e.problem, e.solver, e.state, error, e.warnings⟩

omit [Clock τ] in
/-- Notes the end of a run, if it can be told. -/
def noteEnded (g : Engine τ) (name : String) (o : Outcome τ) : Engine τ :=
  { g with world := if o.isWritable then
      g.world.note (.ended name o.iterations o.reasonText o.bestCost) else g.world }

omit [Clock τ] in
/-- Ends a run: tells the observers, whose failures are added to the
warnings. The name is that under which the run was started. -/
def close (g : Engine τ) (name : String) (error : Option Fault) : Engine τ × Outcome τ :=
  let g1 := g.withPhase .terminated
  let (w, fs) := g1.executor.observers.finish (g1.outcome error) g1.world
  let g2 := ({ g1 with world := w } : Engine τ).warn fs
  let o := g2.outcome error
  (g2.noteEnded name o, o)

omit [Clock τ] in
/-- Closes what a run came to, whether it failed or not. -/
def concluded (name : String) : Attempt τ → Engine τ × Outcome τ
  | .ok g => g.close name none
  | .error ⟨f, g⟩ => (g.markFailed name f).close name (some f)

omit [Clock τ] in
/-- The engine whose run is noted to begin. -/
def begun (g : Engine τ) : Engine τ := g.note (.started g.executor.runName)

/-- What the run of an executor that has not run yet comes to, of which the
caller gets what is handed back. There is nothing if the run has more than
`limit` iterations. -/
def run (limit : Nat) (g : Engine τ) : Except Fault (Option (Engine τ × Outcome τ)) := do
  g.executor.require .created "run"
  return (g.begun.attempt limit).map (concluded g.executor.runName)

end Engine

end Minimize
