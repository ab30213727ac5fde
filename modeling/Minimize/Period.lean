-- Positive whole numbers that settings give: how many iterations lie between
-- two events, how long a streak may last, how many evaluations are allowed.
import Minimize.Value.Display
import Minimize.Fault

namespace Minimize

/-- A positive whole number. -/
structure Period where
  count : Int
  positive : 0 < count
  deriving DecidableEq

namespace Period

/-- The period that a value gives. Only whole numbers of the plain kind
count. -/
def ofValue (what : String) (v : Value) : Except Fault Period :=
  match v with
  | .int n =>
    if h : 0 < n then .ok ⟨n, h⟩
    else .error (.configuration (.notPositive what v.shown))
  | _ => .error (.configuration (.notPositive what v.shown))

def divides (p : Period) (iteration : Int) : Bool := iteration % p.count == 0

end Period

end Minimize
