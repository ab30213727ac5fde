-- Values that several places hold at once. A list or an array that is changed
-- in place changes wherever it is held. Places that hold the same one carry
-- the same mark; a place without a mark holds a value of its own.
import Minimize.Problem.Capability
import Minimize.Table

namespace Minimize

/-- What tells a shared value from another: a number, or that it is the one
value with which the problem answers whenever it is asked for a capability. -/
inductive Mark where
  | numbered (n : Nat)
  | constant (c : Capability)
  deriving DecidableEq, Repr

/-- The marks of the values in fields, with the next number that is free. -/
structure Sharing where
  held : Table Mark
  next : Nat

namespace Mark

/-- The capability whose constant answer has the mark. -/
def constant? : Mark → Option Capability
  | .numbered _ => none
  | .constant c => some c

/-- The mark with a number from `base` on. -/
def renumbered (base : Nat) : Mark → Mark
  | .numbered n => .numbered (base + n)
  | .constant c => .constant c

/-- The mark with a number from `next` on in place of a constant. -/
def settled (next : Nat) : Mark → Mark
  | .numbered n => .numbered n
  | .constant c => .numbered (next + Capability.all.idxOf c)

end Mark

namespace Sharing

/-- Every field has a value of its own. -/
def none : Sharing := ⟨.empty, 0⟩

def mark? (s : Sharing) (field : String) : Option Mark := s.held.get? field

/-- The field has a value of its own from now on. -/
def forget (s : Sharing) (field : String) : Sharing := { s with held := s.held.erase field }

/-- The field holds the value of a mark from now on. -/
def hold (s : Sharing) (field : String) (m : Mark) : Sharing :=
  { s with held := s.held.insert field m }

/-- The mark of the value in a field, which gets one if it has none. -/
def marked (s : Sharing) (field : String) : Sharing × Mark :=
  match s.mark? field with
  | some m => (s, m)
  | .none =>
    let m := Mark.numbered s.next
    ({ s.hold field m with next := s.next + 1 }, m)

/-- The fields that hold the value of a mark. -/
def holders (s : Sharing) (m : Mark) : List String :=
  (s.held.entries.filter fun e => e.2 = m).map (·.1)

/-- The same fields in common, under numbers from `base` on. -/
def renumbered (s : Sharing) (base : Nat) : Sharing :=
  ⟨s.held.map (·.renumbered base), base + s.next⟩

/-- The same fields in common, but with nothing in common with a problem. -/
def settled (s : Sharing) : Sharing :=
  ⟨s.held.map (·.settled s.next), s.next + Capability.all.length⟩

end Sharing

end Minimize
