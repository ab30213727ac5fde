-- The criteria that stop a run. Each may be left open, and then never
-- fires. Budgets of evaluations stand under the names of their counters, in
-- the order in which they were given. Criteria are read from named values,
-- and can be written back as such.
import Minimize.Settings.Lax

namespace Minimize

structure Criteria where
  maxIters : Option Nat
  targetCost : Option Float
  maxTime : Option Float
  noImprovementThreshold : Option Period
  maxEvaluations : Table Period

namespace Criteria

/-- Every criterion left open. -/
def unset : Criteria := ⟨none, none, none, none, .empty⟩

/-- The settings that belong to the criteria, in order. -/
def settingNames : List String :=
  ["max_iters", "target_cost", "max_time", "no_improvement_threshold", "max_evaluations"]

def optionValue {α : Type} (write : α → Value) : Option α → Value
  | some a => write a
  | none => .null

def budgetsValue (t : Table Period) : Value :=
  .dict (t.entries.map fun e => (.text e.1, .int e.2.count))

/-- The criteria as named values. -/
def toSettings (c : Criteria) : Table Value :=
  .ofList [
    ("max_iters", optionValue (fun n => .int n) c.maxIters),
    ("target_cost", optionValue .float c.targetCost),
    ("max_time", optionValue .float c.maxTime),
    ("no_improvement_threshold", optionValue (fun p => .int p.count) c.noImprovementThreshold),
    ("max_evaluations", budgetsValue c.maxEvaluations)]

/-! ## Reading -/

/-- A reading under its name. -/
def located {α : Type} (location : List String) (r : Except Complaint α) :
    Except (List Issue) α :=
  r.mapError fun c => [⟨location, c⟩]

def issuesOf {α : Type} : Except (List Issue) α → List Issue
  | .ok _ => []
  | .error is => is

/-- How an issue names the key of a budget: a text by itself, a whole number
of any type by its digits, anything else by its exact text. -/
def keyText (k : Value) : String :=
  match k with
  | .bool b => toString (truthNumber b)
  | .cell (.whole _ i) => toString i
  | _ => k.text?.getD k.shown

/-- One budget: its name and its limit, or every complaint about the two. -/
def readBudget (e : Value × Value) : Except (List Issue) (String × Int) :=
  let place := ["max_evaluations", keyText e.1]
  let key := located (place ++ ["[key]"]) (Lax.text e.1)
  let limit := located place (Lax.int e.2)
  match key, limit with
  | .ok k, .ok n => .ok (k, n)
  | _, _ => .error (issuesOf key ++ issuesOf limit)

/-- Limits that are all positive; the first that is not is complained
about. -/
def positiveBudgets (t : Table Int) : Except (List Issue) (Table Period) :=
  let read (e : String × Int) : Except (List Issue) (String × Period) :=
    if h : 0 < e.2 then .ok (e.1, ⟨e.2, h⟩)
    else .error [⟨["max_evaluations"], .budgetNotPositive e.1⟩]
  (t.entries.mapM read).map Table.ofList

/-- Budgets of evaluations. All names and limits are read before any limit
is held against zero. -/
def readBudgets : Value → Except (List Issue) (Table Period)
  | .dict es =>
    let read := es.map readBudget
    match read.flatMap issuesOf with
    | [] => positiveBudgets (Table.ofList (read.filterMap Except.toOption))
    | issues => .error issues
  | _ => .error [⟨["max_evaluations"], .dictType⟩]

/-- The criteria that named values give. Every setting is read, so that all
complaints come together, in the order of the settings; unknown names come
last. A setting that is not named is left open. -/
def ofSettings (t : Table Value) : Except (List Issue) Criteria :=
  let setting {α : Type} (name : String) (read : Value → Except Complaint α) :=
    located [name] (Lax.optional read ((t.get? name).getD .null))
  let maxIters := setting "max_iters" Lax.natural
  let targetCost := setting "target_cost" Lax.float
  let maxTime := setting "max_time" Lax.duration
  let threshold := setting "no_improvement_threshold" Lax.period
  let budgets := readBudgets ((t.get? "max_evaluations").getD (.dict []))
  let unknown := (t.keys.filter (fun k => !settingNames.contains k)).map
    fun k => (⟨[k], .extraForbidden⟩ : Issue)
  match maxIters, targetCost, maxTime, threshold, budgets, unknown with
  | .ok a, .ok b, .ok c, .ok d, .ok e, [] => .ok ⟨a, b, c, d, e⟩
  | _, _, _, _, _, _ =>
    .error (issuesOf maxIters ++ issuesOf targetCost ++ issuesOf maxTime ++
      issuesOf threshold ++ issuesOf budgets ++ unknown)

/-- The criteria that named values give, or the refusal. The kind of the
criteria goes by the name `cls`, under which there can be no setting. -/
def create (t : Table Value) : Except Fault Criteria :=
  if t.contains "cls" then .error (.slip .wrongType)
  else (ofSettings t).mapError fun is => .configuration (.refused is)

end Criteria

end Minimize
