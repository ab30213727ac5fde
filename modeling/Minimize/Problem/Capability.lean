-- What a user's problem can be asked for, and counters, one for each.

namespace Minimize

inductive Capability where
  | cost
  | gradient
  | jacobian
  | hessian
  | apply
  | anneal
  deriving DecidableEq, Repr

namespace Capability

/-- The capabilities in order. -/
def all : List Capability := [.cost, .gradient, .jacobian, .hessian, .apply, .anneal]

def name : Capability → String
  | .cost => "cost"
  | .gradient => "gradient"
  | .jacobian => "jacobian"
  | .hessian => "hessian"
  | .apply => "apply"
  | .anneal => "anneal"

def ofName? (s : String) : Option Capability := all.find? (fun c => c.name = s)

/-- The name of the capability's counter. -/
def counter (c : Capability) : String := c.name ++ "_count"

def ofCounter? (s : String) : Option Capability := all.find? (fun c => c.counter = s)

/-- How many arguments a call takes: a point, and a temperature to anneal
at. -/
def arity : Capability → Nat
  | .anneal => 2
  | _ => 1

end Capability

/-- One counter for each capability. -/
structure Counts where
  cost : Int
  gradient : Int
  jacobian : Int
  hessian : Int
  apply : Int
  anneal : Int
  deriving DecidableEq, Repr

namespace Counts

def zero : Counts := ⟨0, 0, 0, 0, 0, 0⟩

def get (n : Counts) : Capability → Int
  | .cost => n.cost
  | .gradient => n.gradient
  | .jacobian => n.jacobian
  | .hessian => n.hessian
  | .apply => n.apply
  | .anneal => n.anneal

def set (n : Counts) (c : Capability) (i : Int) : Counts :=
  match c with
  | .cost => { n with cost := i }
  | .gradient => { n with gradient := i }
  | .jacobian => { n with jacobian := i }
  | .hessian => { n with hessian := i }
  | .apply => { n with apply := i }
  | .anneal => { n with anneal := i }

theorem get_set (n : Counts) (c d : Capability) (i : Int) :
    (n.set c i).get d = if d = c then i else n.get d := by
  cases c <;> cases d <;> rfl

@[ext] theorem ext_get {n m : Counts} (h : ∀ c, n.get c = m.get c) : n = m := by
  cases n
  cases m
  exact Counts.mk.injEq .. ▸ ⟨h .cost, h .gradient, h .jacobian, h .hessian, h .apply, h .anneal⟩

/-- One more call. -/
def bump (n : Counts) (c : Capability) : Counts := n.set c (n.get c + 1)

end Counts

end Minimize
