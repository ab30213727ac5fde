-- Arrays and nested lists as grids: their lengths along the axes, and their
-- numbers in order. Two grids are taken together entry by entry; an axis of
-- length one stretches to the length of the other, and missing axes in front
-- count as such.
import Minimize.Value.Element

namespace Minimize

/-- A grid has as many entries as the product of its lengths. -/
structure Grid (α : Type) where
  shape : List Nat
  entries : List α

namespace Grid

variable {α β γ : Type}

/-- How many entries a grid of a shape has. -/
def size (shape : List Nat) : Nat := shape.foldl (· * ·) 1

/-- The positions of a grid of a shape, in order. -/
def positions : List Nat → List (List Nat)
  | [] => [[]]
  | n :: rest => (List.range n).flatMap fun i => (positions rest).map (i :: ·)

/-- The entry at a position; an axis of length one has the same entry
everywhere, and axes in front that the grid does not have are passed over. -/
def entry? (g : Grid α) (position : List Nat) : Option α :=
  let own := position.drop (position.length - g.shape.length)
  g.entries[(g.shape.zip own).foldl (fun n p => n * p.1 + (if p.1 = 1 then 0 else p.2)) 0]?

/-- The shape to which two shapes stretch, both given from the last axis on. -/
def stretch? : List Nat → List Nat → Option (List Nat)
  | [], t => some t
  | s, [] => some s
  | m :: s, n :: t =>
    if m = n ∨ n = 1 then (stretch? s t).map (m :: ·)
    else if m = 1 then (stretch? s t).map (n :: ·)
    else none

/-- Two grids taken together entry by entry. -/
def zipWith (f : α → β → Except Slip γ) (g : Grid α) (h : Grid β) : Except Slip (Grid γ) :=
  match stretch? g.shape.reverse h.shape.reverse with
  | none => .error (.apart g.shape h.shape)
  | some s => do
    let entries ← (positions s.reverse).mapM fun p =>
      match g.entry? p, h.entry? p with
      | some a, some b => f a b
      | _, _ => .error .badIndex
    return ⟨s.reverse, entries⟩

/-- Grids of one shape under one another. -/
def stack (gs : List (Grid α)) : Except Slip (Grid α) :=
  match gs with
  | [] => .ok ⟨[0], []⟩
  | g :: rest =>
    if rest.all (fun h => h.shape == g.shape) then
      .ok ⟨gs.length :: g.shape, gs.flatMap (·.entries)⟩
    else .error .badValue

end Grid

/-- The array with the numbers of a grid. -/
def Tensor.ofEntries : List Nat → List Float → Tensor
  | [], xs => .number (xs.headD (Number.ofInt 0))
  | n :: rest, xs => .row ((List.range n).map fun i =>
      ofEntries rest ((xs.drop (i * Grid.size rest)).take (Grid.size rest)))

def Tensor.grid (t : Tensor) : Grid Operand :=
  ⟨t.shape, t.numbers.map fun x => .typed (.double x)⟩

namespace Value

/-- A plain number as an entry of a new array. -/
def newEntry (a : Operand) : Except Slip Operand :=
  match a with
  | .truth b => .ok (.typed (.truth b))
  | .whole _ => (a.cast (.whole .int64)).map .typed
  | .real x => .ok (.typed (.double x))
  | .complex re im => .ok (.typed (.wideComplex re im))
  | .typed c => .ok (.typed c)

mutual

/-- The grid that an array or a nested list of numbers is. A number by itself
stays as plain as it is. -/
def grid (inside : Bool) : Value → Except Slip (Grid Operand)
  | .array t => .ok t.grid
  | .list vs => do Grid.stack (← grids vs)
  | .tuple vs => do Grid.stack (← grids vs)
  | v => match v.operand? with
    | some a => do return ⟨[], [← if inside then newEntry a else .ok a]⟩
    | none => .error .wrongType

def grids : List Value → Except Slip (List (Grid Operand))
  | [] => .ok []
  | v :: vs => do return (← grid true v) :: (← grids vs)

end

/-- Whether an operation with the value is one on grids: arrays and numbers
of typed arrays make it one. -/
def spreads : Value → Bool
  | .array _ => true
  | .cell c => c.type?.isSome
  | _ => false

/-- The value of a grid of numbers: a single one is a typed number, and the
others make an array of real numbers. -/
def ofGrid (g : Grid Value) : Except Slip Value :=
  match g.shape, g.entries with
  | [], [v] => .ok v
  | shape, vs => do
    let xs ← vs.mapM fun v => match v.operand? with
      | some (.typed (.complex ..)) => .error .wrongType
      | some (.typed (.wideComplex ..)) => .error .wrongType
      | some a => a.parts.map (·.1)
      | none => .error .wrongType
    return .array (.ofEntries shape xs)

/-- An operation on grids. -/
def onGrids (op : Operation) (a b : Value) : Except Slip Value := do
  ofGrid (← Grid.zipWith op.onOperands (← a.grid false) (← b.grid false))

/-- A relation that holds between the only entries of two grids. More entries
than one have no single answer. -/
def relatesGrids (r : Relation) (a b : Value) : Except Slip Bool := do
  match (← Grid.zipWith r.onOperands (← a.grid false) (← b.grid false)).entries with
  | [holds] => return holds
  | answers => throw (.notAlone answers.isEmpty)

end Value

end Minimize
