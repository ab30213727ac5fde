-- Arranging a list run by run. Each run is brought up to a least length, and
-- runs are merged so that those merged are of like length. The power of two
-- neighbours tells how deep the border between them lies if the list is
-- halved again and again; deeper borders are merged away first. Items of
-- which a comparison makes an order have only one stable arrangement, and
-- are merged without all that.
import Minimize.Arrange.Basic
import Minimize.Arrange.Merge

namespace Minimize.Arrange

variable {α ε : Type}

/-! ## Lengths and powers -/

/-- The least length of a run in a list of some length: the six highest bits
of it, and one more if a lower bit is set; a short list is one run. -/
def leastRun (length : Nat) (odd : Nat) : Nat :=
  if length < 64 then length + odd
  else leastRun (length / 2) (if length % 2 = 1 then 1 else odd)
  termination_by length
  decreasing_by omega

/-- The number of halvings of a length until a border lies between two
points, each given as twice its distance from the start. -/
def halvings (length : Nat) : Nat → Nat → Nat → Nat
  | 0, _, _ => 0
  | fuel + 1, a, b =>
    if length ≤ a then halvings length fuel (2 * (a - length)) (2 * (b - length)) + 1
    else if length ≤ b then 1
    else halvings length fuel (2 * a) (2 * b) + 1

/-- The power of two neighbours, of which the first starts at a place: the
depth of the border between their middles. -/
def power (length start first second : Nat) : Nat :=
  let a := 2 * start + first
  halvings length (length + 1) a (a + first + second)

/-! ## The runs so far -/

/-- Runs that are still to be merged, the last one apart. Each of those below
has the power of it and its upper neighbour. -/
structure Pile (α : Type) where
  below : List (Nat × List α)
  top : List α

namespace Pile

/-- The items in their order. -/
def items (p : Pile α) : List α := (p.below.reverse.flatMap (·.2)) ++ p.top

end Pile

/-- A pile after merges, with what it takes to look for blocks next time, and
what stopped the merges. -/
structure Piled (α ε : Type) where
  pile : Pile α
  patience : Nat
  trouble? : Option ε

variable (less : α → α → Except ε Bool)

/-- Merges the last run with those below it whose borders lie deeper than a
power. -/
def mergeDeeper (limit patience : Nat) (top : List α) : List (Nat × List α) → Piled α ε
  | [] => ⟨⟨[], top⟩, patience, none⟩
  | (p, run) :: below =>
    if limit < p then
      match merge less patience run top with
      | ⟨items, patience, none⟩ => mergeDeeper limit patience items below
      | ⟨items, patience, some e⟩ => ⟨⟨below, items⟩, patience, some e⟩
    else ⟨⟨(p, run) :: below, top⟩, patience, none⟩

/-- Merges all runs into one, from the last; a run that is shorter than the
last one is merged before it with the one between them. -/
def mergeAll (patience : Nat) (top : List α) : List (Nat × List α) → Piled α ε
  | [] => ⟨⟨[], top⟩, patience, none⟩
  | [(_, run)] =>
    let m := merge less patience run top
    ⟨⟨[], m.items⟩, m.patience, m.trouble?⟩
  | (_, second) :: (q, third) :: below =>
    if third.length < top.length then
      match merge less patience third second with
      | ⟨items, patience, none⟩ => mergeAll patience top ((q, items) :: below)
      | ⟨items, patience, some e⟩ => ⟨⟨(q, items) :: below, top⟩, patience, some e⟩
    else
      match merge less patience second top with
      | ⟨items, patience, none⟩ => mergeAll patience items ((q, third) :: below)
      | ⟨items, patience, some e⟩ => ⟨⟨(q, third) :: below, items⟩, patience, some e⟩
  termination_by below => below.length

/-- The run at the head of a list, brought up to a least length, with what
comes after it and what stopped it. -/
def nextRun (least : Nat) (items : List α) : List α × List α × Option ε :=
  match headRun less items with
  | .error e => (items, [], some e)
  | .ok (run, rest) =>
    let missing := least - run.length
    let (run, trouble) := placeAll less run (rest.take missing)
    (run, rest.drop missing, trouble)

/-- The pile with one more run, after the merges that it calls for. -/
def addRun (length patience : Nat) (p : Pile α) (run : List α) : Piled α ε :=
  let start := p.items.length - p.top.length
  let limit := power length start p.top.length run.length
  match mergeDeeper less limit patience p.top p.below with
  | ⟨p, patience, none⟩ => ⟨⟨(limit, p.top) :: p.below, run⟩, patience, none⟩
  | stopped => stopped

/-- Adds the runs of the rest of a list to a pile, and merges them all. -/
def pileRuns (length least : Nat) : Nat → Nat → Pile α → List α → List α × Option ε
  | 0, _, p, rest => (p.items ++ rest, none)
  | fuel + 1, patience, p, rest =>
    if rest.isEmpty then
      let m := mergeAll less patience p.top p.below
      (m.pile.items, m.trouble?)
    else
      match nextRun less least rest with
      | (run, rest, some e) => (p.items ++ run ++ rest, some e)
      | (run, rest, none) =>
        match addRun less length patience p run with
        | ⟨p, patience, none⟩ => pileRuns length least fuel patience p rest
        | ⟨p, _, some e⟩ => (p.items ++ run ++ rest, some e)

/-- The list arranged run by run, and what stopped it. -/
def byRuns (items : List α) : List α × Option ε :=
  let least := leastRun items.length 0
  match nextRun less least items with
  | (run, rest, some e) => (run ++ rest, some e)
  | (run, rest, none) => pileRuns less items.length least items.length worthwhile ⟨[], run⟩ rest

/-- Whether an item comes before another beyond doubt. -/
def comesBefore (a b : α) : Bool :=
  match less a b with
  | .ok r => r
  | .error _ => false

/-- The list arranged, and what stopped it. The items of which `isRanked`
holds are put in one order by the comparison. -/
def arranged (isRanked : α → Bool) (items : List α) : List α × Option ε :=
  if items.all isRanked then (items.mergeSort fun a b => !comesBefore less b a, none)
  else byRuns less items

end Minimize.Arrange
