-- Why a run stopped. A reason has a kind; a streak of iterations without
-- improvement tells its length, and some reasons carry a text.
import Minimize.Count

namespace Minimize

inductive ReasonKind where
  | maxItersReached
  | targetCostReached
  | targetPrecisionReached
  | noImprovementStreak
  | timeBudgetExceeded
  | evaluationBudgetExceeded
  | aborted
  | solverConverged
  | solverExit
  | error
  deriving DecidableEq, Repr

namespace ReasonKind

/-- The kinds in the order in which they are listed. -/
def all : List ReasonKind :=
  [.maxItersReached, .targetCostReached, .targetPrecisionReached, .noImprovementStreak,
    .timeBudgetExceeded, .evaluationBudgetExceeded, .aborted, .solverConverged, .solverExit,
    .error]

def name : ReasonKind → String
  | .maxItersReached => "MaxItersReached"
  | .targetCostReached => "TargetCostReached"
  | .targetPrecisionReached => "TargetPrecisionReached"
  | .noImprovementStreak => "NoImprovementStreak"
  | .timeBudgetExceeded => "TimeBudgetExceeded"
  | .evaluationBudgetExceeded => "EvaluationBudgetExceeded"
  | .aborted => "Aborted"
  | .solverConverged => "SolverConverged"
  | .solverExit => "SolverExit"
  | .error => "Error"

/-- The name in small letters, with a line between its words. -/
def label (k : ReasonKind) : String :=
  String.ofList ((k.name.toList.flatMap fun c =>
    if c.isUpper then ['_', c.toLower] else [c]).drop 1)

def ofName? (s : String) : Option ReasonKind := all.find? (fun k => k.name = s)

def description : ReasonKind → String
  | .maxItersReached => "Maximum number of iterations reached"
  | .targetCostReached => "Target cost value reached"
  | .targetPrecisionReached => "Target precision reached"
  | .noImprovementStreak => "No improvement"
  | .timeBudgetExceeded => "Time budget exceeded"
  | .evaluationBudgetExceeded => "Evaluation budget exceeded"
  | .aborted => "Aborted"
  | .solverConverged => "Solver converged"
  | .solverExit => "Solver exit"
  | .error => "Error"

end ReasonKind

/-- A reason with what it has to tell. -/
structure Reason (κ : Type := Int) where
  kind : ReasonKind
  streak : Option κ
  text : Option String
  deriving DecidableEq, Repr

namespace Reason

variable {κ : Type}

def plain (kind : ReasonKind) : Reason κ := ⟨kind, none, none⟩

def maxItersReached : Reason κ := plain .maxItersReached
def targetCostReached : Reason κ := plain .targetCostReached
def targetPrecisionReached : Reason κ := plain .targetPrecisionReached
def timeBudgetExceeded : Reason κ := plain .timeBudgetExceeded
def aborted : Reason κ := plain .aborted
def solverConverged : Reason κ := plain .solverConverged

def noImprovementStreak (n : κ) : Reason κ := ⟨.noImprovementStreak, some n, none⟩

/-- A budget of evaluations is used up, the one of the named counter. -/
def evaluationBudgetExceeded (counter : String) : Reason κ :=
  ⟨.evaluationBudgetExceeded, none, some counter⟩

def solverExit (text : String) : Reason κ := ⟨.solverExit, none, some text⟩

/-- The run failed. -/
def error (f : Fault) : Reason κ := ⟨.error, none, some (f.kind ++ ": " ++ f.message)⟩

/-- The reason in words: what happened, for how long, and the text behind a
colon unless it is empty. -/
def message [Count κ] (r : Reason κ) : String :=
  let lasting := match r.streak with
    | some n => " for " ++ (Plain.toValue n).plain ++ " iterations"
    | none => ""
  let detail := match r.text with
    | some t => if t.isEmpty then "" else ": " ++ t
    | none => ""
  r.kind.description ++ lasting ++ detail

/-- Whether the words of a reason can be written. -/
def isWritable (r : Reason) : Bool := r.streak.all Text.isWritable

/-- Whether two reasons say the same. -/
def same [Count κ] (a b : Reason κ) : Bool :=
  a.kind == b.kind && a.text == b.text &&
    match a.streak, b.streak with
    | some m, some n => Count.same m n
    | none, none => true
    | _, _ => false

end Reason

/-- Whether a run has stopped: the reason, or none while it goes on. -/
structure Status (κ : Type := Int) where
  reason : Option (Reason κ)
  deriving DecidableEq, Repr

namespace Status

variable {κ : Type}

def running : Status κ := ⟨none⟩

def terminated (s : Status κ) : Bool := s.reason.isSome

def message [Count κ] (s : Status κ) : String :=
  match s.reason with
  | some r => r.message
  | none => "Running"

end Status

end Minimize
