-- An observer that writes records to a log at a level. A log has a level of
-- its own, below which nothing is taken.
import Minimize.Level
import Minimize.Observer.Basic

namespace Minimize.Logging

variable {τ : Type}

/-- The log with one more line, unless it is below what the log takes. -/
def write (slot : Nat) (level least : Int) (message : String) (r : Option Record) (o : Outlets) :
    Outlets :=
  if level < Level.threshold least then o
  else o.update slot fun t =>
    { t with logged := t.logged ++ [⟨Level.nameOfRank level, message, r⟩] }

/-- The line of the end. -/
def endLine (outcome : Outcome τ) (cost : Float) : String :=
  "finished: reason=" ++ outcome.reasonText ++ " best_cost=" ++ Number.briefText cost ++
    " iters=" ++ toString outcome.iterations

def observer (slot : Nat) (level least : Int) : Observer τ where
  typeName := "LoggingObserver"
  setup := Observer.idle
  notify r o := .done (write slot level least (Record.briefText " " r.entries) (some r) o)
  finish := some fun outcome o =>
    .need o outcome.bestCost.toFloat fun cost =>
      .done (write slot level least (endLine outcome cost) none o)

end Minimize.Logging
