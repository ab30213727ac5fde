-- A user's problem behind a counter. The problem offers any of the
-- capabilities as functions; a call of one that it does not offer fails
-- before anything is counted, and a call that reaches the user's function
-- counts even if the function fails. Nothing is remembered of the answers; but
-- a function may hand out a value that others hold too.
import Minimize.Problem.Capability
import Minimize.Table
import Minimize.Value.Convert
import Minimize.Value.Display

namespace Minimize

/-- A user's function. Most compute new values; one may hand back the very
value that it is given, or hand out the same value whatever it is given. -/
inductive UserFunction where
  | computed (f : List Value → Except Fault Value)
  | handsBack
  | constant (v : Value)

/-- Where the value comes from with which a function answers. -/
inductive Origin where
  | fresh
  | argument
  | constant
  deriving DecidableEq, Repr

namespace UserFunction

def call : UserFunction → List Value → Except Fault Value
  | computed f, args => f args
  | handsBack, [v] => .ok v
  | handsBack, _ => .error (.slip .wrongType)
  | constant v, _ => .ok v

def origin : UserFunction → Origin
  | computed _ => .fresh
  | handsBack => .argument
  | constant _ => .constant

/-- The function after its constant answer was changed in place. -/
def amended (v : Value) : UserFunction → UserFunction
  | constant _ => constant v
  | f => f

end UserFunction

/-- What a user brings. Nothing at all has no type to be named by. -/
structure UserProblem where
  typeName? : Option String
  shown : String
  function? : Capability → Option UserFunction

namespace UserProblem

/-- No problem. -/
def nothing : UserProblem := ⟨none, "None", fun _ => none⟩

def typeName (u : UserProblem) : String := u.typeName?.getD "NoneType"

/-- The problem after its constant answer for a capability was changed in
place. -/
def amended (u : UserProblem) (c : Capability) (v : Value) : UserProblem :=
  { u with function? := fun d =>
      (u.function? d).map fun f => if d = c then f.amended v else f }

end UserProblem

/-- A user's problem with its counters. -/
structure Problem where
  user : UserProblem
  counts : Counts

namespace Counts

/-- The counters by name, in order. -/
def toTable (n : Counts) : Table Int := .ofList (Capability.all.map fun c => (c.counter, n.get c))

/-- The counters with those that a table names put to its numbers; other
names are passed over. -/
def overlay (n : Counts) (t : Table Int) : Counts :=
  t.entries.foldl (fun n e => match Capability.ofCounter? e.1 with
    | some c => n.set c e.2
    | none => n) n

/-- The counters with named values laid over them one by one. A value that is
no number stops it, and what precedes it stays. -/
def restore (n : Counts) : List (String × Value) → Counts × Except Slip Unit
  | [] => (n, .ok ())
  | (name, v) :: rest =>
    match Capability.ofCounter? name with
    | none => restore n rest
    | some c => match v.toInt with
      | .ok i => restore (n.set c i) rest
      | .error s => (n, .error s)

end Counts

namespace Problem

/-- A problem with nothing counted yet. -/
def wrap (u : UserProblem) : Problem := ⟨u, .zero⟩

def supports (p : Problem) (c : Capability) : Bool := (p.user.function? c).isSome

/-- A call of the user's function: the problem with the call counted, and the
answer. -/
def evaluate (p : Problem) (c : Capability) (args : List Value) :
    Problem × Except Fault Value :=
  match p.user.function? c with
  | none => (p, .error (.capabilityMissing c.name p.user.typeName?))
  | some f => ({ p with counts := p.counts.bump c }, f.call args)

/-- A call of a capability by its name. There is nothing under another name,
and each takes a number of arguments of its own. -/
def call (p : Problem) (name : String) (args : List Value) : Problem × Except Fault Value :=
  match Capability.ofName? name with
  | none => (p, .error (.slip .missingAttribute))
  | some c => if args.length = c.arity then p.evaluate c args else (p, .error (.slip .wrongType))

/-- Where the value comes from with which the problem answers. -/
def origin (p : Problem) (c : Capability) : Origin :=
  ((p.user.function? c).map (·.origin)).getD .fresh

def shown (p : Problem) : String :=
  "Problem(" ++ p.user.typeName ++ ", capabilities=" ++
    (Value.list ((Capability.all.filter p.supports).map fun c => .text c.name)).shown ++ ")"

end Problem

end Minimize
