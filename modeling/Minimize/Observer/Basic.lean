-- Observers: what is told of a run while it goes on. Every observer takes
-- records; it may also have to be set up, and may want to hear of the end.
import Minimize.Observer.Outlet
import Minimize.Outcome

namespace Minimize

structure Observer (τ : Type) where
  typeName : String
  setup : Option (Outlets → Reaction)
  notify : Record → Outlets → Reaction
  finish : Option (Outcome τ → Outlets → Reaction)

namespace Observer

variable {τ : Type}

/-- A hook with nothing to do. -/
def idle : Option (Outlets → Reaction) := some .done

/-- An end that is of no interest. -/
def ignoring : Option (Outcome τ → Outlets → Reaction) := some fun _ => .done

end Observer

end Minimize
