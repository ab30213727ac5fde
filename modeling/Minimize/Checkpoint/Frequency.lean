-- When a checkpoint is due: never, always, or at every multiple of a
-- positive number of iterations.
import Minimize.Period

namespace Minimize

inductive Frequency where
  | never
  | always
  | every (p : Period)
  deriving DecidableEq

namespace Frequency

def ofEvery (v : Value) : Except Fault Frequency :=
  (Period.ofValue "CheckpointingFrequency.every" v).map .every

/-- Whether a checkpoint is due at an iteration. -/
def due (f : Frequency) (iteration : Int) : Bool :=
  match f with
  | .never => false
  | .always => true
  | .every p => p.divides iteration

def kindName : Frequency → String
  | .never => "never"
  | .always => "always"
  | .every _ => "every"

def period? : Frequency → Option Int
  | .every p => some p.count
  | _ => none

end Frequency

end Minimize
