-- Arranging items by a comparison that may fail, or that is no order at all.
-- A run at the head of a list that is in order already is kept, and one that
-- falls all the way is turned round. More items are put, one after the other,
-- where bisection finds their place, behind their equals.

namespace Minimize.Arrange

variable {α ε : Type} (less : α → α → Except ε Bool)

/-- How many items go on in order after `a`. -/
def rising (a : α) : List α → Except ε Nat
  | [] => .ok 0
  | b :: rest => do if ← less b a then return 0 else return (← rising b rest) + 1

/-- How many items go on falling after `a`. -/
def falling (a : α) : List α → Except ε Nat
  | [] => .ok 0
  | b :: rest => do if ← less b a then return (← falling b rest) + 1 else return 0

/-- The run at the head of a list, put in order, and what comes after it. -/
def headRun : List α → Except ε (List α × List α)
  | [] => .ok ([], [])
  | [a] => .ok ([a], [])
  | a :: b :: rest => do
    if ← less b a then
      let n ← falling less b rest
      return ((a :: b :: rest.take n).reverse, rest.drop n)
    else
      let n ← rising less b rest
      return (a :: b :: rest.take n, rest.drop n)

/-- The items with one more, put at the place that bisection finds. -/
def place (a : α) (items : List α) : Except ε (List α) :=
  match _h : items.drop (items.length / 2) with
  | [] => .ok [a]
  | m :: back => do
    if ← less a m then
      return (← place a (items.take (items.length / 2))) ++ m :: back
    else
      return items.take (items.length / 2) ++ m :: (← place a back)
  termination_by items.length
  decreasing_by
  · have := congrArg List.length _h
    simp only [List.length_drop, List.length_cons] at this
    simp only [List.length_take]
    omega
  · have := congrArg List.length _h
    simp only [List.length_drop, List.length_cons] at this
    omega

/-- Places the items one after the other; tells what stopped it. -/
def placeAll (done : List α) : List α → List α × Option ε
  | [] => (done, none)
  | a :: rest =>
    match place less a done with
    | .ok done' => placeAll done' rest
    | .error e => (done ++ a :: rest, some e)

/-- The first item that no later one comes before. -/
def firstLeast (a : α) : List α → Except ε α
  | [] => .ok a
  | b :: rest => do if ← less b a then firstLeast b rest else firstLeast a rest

end Minimize.Arrange
