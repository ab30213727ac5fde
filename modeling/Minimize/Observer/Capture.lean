-- An observer that keeps every record it is told.
import Minimize.Observer.Basic

namespace Minimize.Capture

variable {τ : Type}

def observer (slot : Nat) : Observer τ where
  typeName := "RecordCapture"
  setup := some fun o => .done (o.update slot fun t => { t with setups := t.setups + 1 })
  notify r o := .done (o.update slot fun t => { t with records := t.records ++ [r] })
  finish := some fun _ o => .done (o.update slot fun t => { t with finished := true })

/-- The iterations of the records that tell one, as whole numbers. -/
def iterations (t : Outlet) : Except Slip (List Int) :=
  (t.records.filterMap fun r => r.get? "iter").mapM fun s => s.toValue.toInt

/-- What the records have under a key, nothing where they have none. -/
def values (t : Outlet) (key : String) : List (Option Scalar) := t.records.map fun r => r.get? key

def last? (t : Outlet) : Option Record := t.records.getLast?

def cleared (t : Outlet) : Outlet := { t with records := [] }

end Minimize.Capture
