-- Changes in place. A change of a value shows in every field and in every
-- member of the population that holds it, in every state that holds it, and
-- in the problem if it answers with it. A population that was arranged shows
-- so in every state that has it. A best point that is kept can be changed in
-- place as well; that shows in what the engine keeps of it.
import Minimize.Problem.Basic
import Minimize.State.Field
import Minimize.Value.Arithmetic

namespace Minimize

/-- A change in place of what a mark stands for, a value or a population, or of
the best point that is kept, or of the one before it. -/
inductive Change where
  | value (m : Mark) (v : Value)
  | members (m : Mark) (ms : List Individual)
  | best (v : Value)
  | previousBest (v : Value)

namespace Individual

/-- The individual with a value for the point of a mark. -/
def changed (i : Individual) (m : Mark) (v : Value) : Individual :=
  if i.mark?.map Mark.numbered = some m then { i with param := v } else i

/-- The individual with the number of its mark from `base` on. -/
def renumbered (i : Individual) (base : Nat) : Individual :=
  { i with mark? := i.mark?.map (base + ·) }

end Individual

/-- The shape with other members, if it has members. -/
def Shape.mapMembers (f : Individual → Individual) : Shape → Shape
  | .population ms => .population (ms.map f)
  | shape => shape

/-- The problem after a change in place. -/
def Problem.after (p : Problem) : Change → Problem
  | .value (.constant c) v => { p with user := p.user.amended c v }
  | _ => p

variable {τ κ φ : Type}

namespace Bookkeeping

/-- The bookkeeping after a change in place: the points in it are those that
are kept, and not copies of them. -/
def after (b : Bookkeeping τ κ φ) : Change → Bookkeeping τ κ φ
  | .best v => { b with bestParam := v }
  | .previousBest v => { b with prevBestParam := v }
  | _ => b

def afterAll (b : Bookkeeping τ κ φ) (cs : List Change) : Bookkeeping τ κ φ := cs.foldl after b

end Bookkeeping

namespace State

/-- The state with a value wherever it holds that of a mark. -/
def changed (s : State τ κ φ) (m : Mark) (v : Value) : State τ κ φ :=
  (s.sharing.holders m).foldl (fun s field => (s.put? field v).getD s)
    { s with shape := s.shape.mapMembers (·.changed m v) }

/-- The state after a change in place. -/
def after (s : State τ κ φ) : Change → State τ κ φ
  | .value m v => s.changed m v
  | .members m ms =>
    if s.sharing.mark? "population" = some m then { s with shape := .population ms } else s
  | _ => s

def afterAll (s : State τ κ φ) (cs : List Change) : State τ κ φ := cs.foldl after s

/-- The change that others have to follow when the point becomes a value in
place. -/
def paramChange? (s : State τ κ φ) (v : Value) : Option Change :=
  (s.sharing.mark? "param").map (.value · v)

/-- The change that others have to follow when the population was arranged in
place. -/
def membersChange? (s : State τ κ φ) : Option Change :=
  match s.sharing.mark? "population", s.shape with
  | some m, .population ms => some (.members m ms)
  | _, _ => none

/-- The state with its point changed in place to a value. -/
def changedParam (s : State τ κ φ) (v : Value) : State τ κ φ :=
  match s.paramChange? v with
  | some c => s.after c
  | none => { s with param := v }

/-- The state with every entry of its point changed in place. If one cannot
be changed, those before it are. -/
def edit (s : State τ κ φ) (op : Operation) (v : Value) : State τ κ φ × Except Slip Unit :=
  let (w, changed) := s.param.change op v
  (s.changedParam w, changed)

/-- The state at a point of its own. -/
def movedTo (s : State τ κ φ) (param : Value) : State τ κ φ :=
  { s with param := param, sharing := s.sharing.forget "param" }

/-- The state ready to be copied: the copy has its point and its population in
common with it. -/
def copied (s : State τ κ φ) : State τ κ φ :=
  { s with sharing := ((s.sharing.marked "param").1.marked "population").1 }

/-- The state with its marks numbered from `base` on. -/
def renumbered (s : State τ κ φ) (base : Nat) : State τ κ φ :=
  { s with
    shape := s.shape.mapMembers (·.renumbered base)
    sharing := s.sharing.renumbered base }

/-- The state with nothing in common with a problem. -/
def settled (s : State τ κ φ) : State τ κ φ := { s with sharing := s.sharing.settled }

end State

end Minimize
