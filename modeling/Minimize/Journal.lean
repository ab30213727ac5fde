-- The journal in words: which part of the engine tells of an event, at what
-- level, and how.
import Minimize.Level
import Minimize.World

namespace Minimize

/-- The parts of the engine that tell of events. -/
inductive Part where
  | executor
  | pool
  | checkpoints
  | observers
  | recordFile
  | problem
  deriving DecidableEq, Repr

/-- The name of the log that a part tells to. -/
def Part.name : Part → String
  | .executor => "executor.executor"
  | .pool => "executor.concurrent"
  | .checkpoints => "checkpointing.base"
  | .observers => "observers.base"
  | .recordFile => "observers.file_logger"
  | .problem => "problem"

/-- An event in words. -/
structure Telling where
  part : Part
  level : Level
  message : String

namespace Event

variable {τ : Type}

def iterationText (s : State τ) : String :=
  "iter " ++ toString s.book.iteration ++ ": cost=" ++ s.cost.plain ++ " best=" ++
    s.book.bestCost.plain ++ " streak=" ++ toString s.book.noImprovementStreak

/-- How an event is told of. Some are not worth telling. -/
def telling? : Event τ → Option Telling
  | .started name => some ⟨.executor, .info, "Starting run '" ++ name ++ "'"⟩
  | .completed s => some ⟨.executor, .debug, iterationText s⟩
  | .saved key i =>
    some ⟨.checkpoints, .debug, "Checkpoint '" ++ key ++ "' saved at iteration " ++ toString i⟩
  | .saveFailed f => some ⟨.checkpoints, .error, f.message⟩
  | .resumed key i =>
    some ⟨.checkpoints, .info,
      "Resuming from checkpoint '" ++ key ++ "' at iteration " ++ toString i⟩
  | .ignoredCounter name =>
    some ⟨.problem, .debug, "Ignoring unknown evaluation counter: " ++ name⟩
  | .reopened i => some ⟨.executor, .info, "Reopening run aborted at iteration " ++ toString i⟩
  | .registered name mode => mode.message.toOption.map fun text =>
    ⟨.observers, .debug, "Registered observer '" ++ name ++ "' (" ++ text ++ ")"⟩
  | .opened path => some ⟨.recordFile, .info, "JsonLinesObserver initialized: " ++ path⟩
  | .notifyFailed f => some ⟨.observers, .error, f.message⟩
  | .finishFailed f => some ⟨.observers, .error, f.message⟩
  | .failed name i f =>
    some ⟨.executor, .error,
      "Run '" ++ name ++ "' failed at iteration " ++ toString i ++ ": " ++ f.message⟩
  | .ended name i reason best =>
    some ⟨.executor, .info,
      "Run '" ++ name ++ "' terminated after " ++ toString i ++ " iterations: " ++ reason ++
        " (best cost " ++ best.plain ++ ")"⟩
  | .pooled n workers =>
    some ⟨.pool, .info,
      "Running " ++ toString n ++ " executors on " ++ toString workers ++ " threads"⟩
  | _ => none

end Event

/-- What there is to tell of the history of a world in a log of a rank. -/
def World.tellings {τ : Type} (w : World τ) (rank : Int) : List Telling :=
  (w.history.filterMap Event.telling?).filter fun t => Level.threshold rank ≤ t.level.rank

end Minimize
