-- A catalogue: things by number, and names for them. A name stands for the
-- thing that was put under it last. A thing that lost its name keeps its
-- number, so whoever holds the number still has the thing.
import Minimize.Table

namespace Minimize

structure Catalog (α : Type) where
  things : List α
  names : Table Nat

namespace Catalog

variable {α : Type}

def empty : Catalog α := ⟨[], .empty⟩

/-- The catalogue with one more thing, for which the name stands from now
on. -/
def add (c : Catalog α) (name : String) (a : α) : Catalog α :=
  ⟨c.things ++ [a], c.names.insert name c.things.length⟩

/-- The number of the thing that a name stands for. -/
def number? (c : Catalog α) (name : String) : Option Nat := c.names.get? name

/-- The thing of a number. -/
def get? (c : Catalog α) (number : Nat) : Option α := c.things[number]?

/-- The thing that a name stands for. -/
def find? (c : Catalog α) (name : String) : Option α := (c.number? name).bind c.get?

/-- The catalogue with another thing under a number. -/
def set (c : Catalog α) (number : Nat) (a : α) : Catalog α :=
  { c with things := c.things.set number a }

/-- The catalogue with another thing in the place of that of a name. -/
def replace (c : Catalog α) (name : String) (a : α) : Catalog α :=
  match c.number? name with
  | some i => c.set i a
  | none => c

end Catalog

end Minimize
