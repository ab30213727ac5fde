-- Which values count as true: numbers that are not zero, texts and
-- collections that are not empty. An array counts as its only entry does,
-- and one with more entries, or with none, has no single answer.
import Minimize.Value.Compare

namespace Minimize

open Number

/-- Whether a number is not zero. What is no number is not zero either. -/
def isNonzero (x : Float) : Bool := !Place.same (Place.ofFloat x) (some (.ofInt 0))

/-- Whether an element counts as true. -/
def Cell.holds : Cell → Bool
  | .whole _ i => i ≠ 0
  | .single x => isNonzero x
  | .double x => isNonzero x
  | .truth b => b
  | .text s => !s.isEmpty
  | .complex re im => isNonzero re || isNonzero im
  | .wideComplex re im => isNonzero re || isNonzero im

/-- Whether a value counts as true. -/
def Value.holds : Value → Except Slip Bool
  | .null => .ok false
  | .bool b => .ok b
  | .int i => .ok (i ≠ 0)
  | .float x => .ok (isNonzero x)
  | .text s => .ok (!s.isEmpty)
  | .list vs => .ok (!vs.isEmpty)
  | .tuple vs => .ok (!vs.isEmpty)
  | .dict es => .ok (!es.isEmpty)
  | .array t => match t.numbers with
    | [x] => .ok (isNonzero x)
    | xs => .error (.notAlone xs.isEmpty)
  | .cell c => .ok c.holds
  | .bytes bs => .ok (!bs.isEmpty)
  | .complex re im => .ok (isNonzero re || isNonzero im)
  | .sealed => .ok true

end Minimize
