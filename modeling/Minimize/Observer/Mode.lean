-- When an observer is told about an iteration: always, never, at every
-- multiple of a positive number, or when the iteration is the best so far. A
-- mode can also be made of a plain text in the place of its kind. It may fire
-- then, but it has no name.
import Minimize.Period
import Minimize.Text.Digit

namespace Minimize

inductive Mode where
  | always
  | never
  | every (p : Period)
  | newBest
  | misnamed (kind : String) (h : kind ≠ "every")
  deriving DecidableEq

namespace Mode

/-- The mode that fires at the multiples of a value. -/
def ofEvery (v : Value) : Except Fault Mode :=
  (Period.ofValue "ObserverMode.every" v).map .every

/-- Whether the mode fires at an iteration. -/
def fires (m : Mode) (iteration : Int) (improved : Bool) : Bool :=
  match m with
  | .always => true
  | .never => false
  | .every p => p.divides iteration
  | .newBest => improved
  | .misnamed kind _ => kind = "always" || (kind = "new_best" && improved)

/-- The name of the mode. A text in the place of a kind names none, and a number
of too many digits cannot be named. -/
def message : Mode → Except Slip String
  | .always => .ok "Always"
  | .never => .ok "Never"
  | .every p =>
    if Text.isWritable p.count then .ok ("Every(" ++ toString p.count ++ ")")
    else .error .tooManyDigits
  | .newBest => .ok "NewBest"
  | .misnamed kind _ => .error (.noSuchKey (Text.quoted kind))

def kindName : Mode → String
  | .always => "always"
  | .never => "never"
  | .every _ => "every"
  | .newBest => "new_best"
  | .misnamed kind _ => kind

def period? : Mode → Option Int
  | .every p => some p.count
  | _ => none

end Mode

end Minimize
