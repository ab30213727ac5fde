-- What a caller gives where something of a kind is expected: a thing of that
-- kind, or some other value.
import Minimize.Value.Basic

namespace Minimize

inductive Given (α : Type) where
  | proper (a : α)
  | other (v : Value)

end Minimize
