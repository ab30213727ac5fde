-- Equality and order of values. Plain numbers are compared by place, so `1`,
-- `1.0` and a truth value of one are the same; a number of a typed array is
-- compared in a type that has room for both, and arrays entry by entry; a
-- sequence is compared item by item. An order that makes no sense is a slip.
import Minimize.Value.Grid

namespace Minimize

open Number

namespace Cell

/-- The place of a numeric element. -/
def place? : Cell → Option (Option Place)
  | .whole _ i => some (some (.ofInt i))
  | .single x => some (Place.ofFloat x)
  | .double x => some (Place.ofFloat x)
  | .truth b => some (some (.ofInt (truthNumber b)))
  | _ => none

end Cell

namespace Value

/-- The place of a numeric value; the inner `none` is a value that is no
number, such as the result of zero by zero. -/
def place? : Value → Option (Option Place)
  | .bool b => some (some (.ofInt (truthNumber b)))
  | .int i => some (some (.ofInt i))
  | .float x => some (Place.ofFloat x)
  | .cell c => c.place?
  | _ => none

def text? : Value → Option String
  | .text s => some s
  | .cell (.text s) => some s
  | _ => none

/-- A complex number by the places of its parts. A real number has none in
the other direction. -/
def complexPlace? : Value → Option (Option Place × Option Place)
  | .complex re im => some (Place.ofFloat re, Place.ofFloat im)
  | .cell (.complex re im) => some (Place.ofFloat re, Place.ofFloat im)
  | .cell (.wideComplex re im) => some (Place.ofFloat re, Place.ofFloat im)
  | v => v.place?.map (·, some (.ofInt 0))

/-- Equal values that are not sequences. -/
def sameAtom (a b : Value) : Bool :=
  match a.complexPlace?, b.complexPlace? with
  | some (x, y), some (z, w) => Place.same x z && Place.same y w
  | _, _ =>
    match a.text?, b.text? with
    | some s, some t => s == t
    | _, _ =>
      match a, b with
      | .null, .null => true
      | .bytes x, .bytes y => x == y
      | _, _ => false

mutual

/-- Values that stand for the same thing, so that as keys they are one. -/
def same : Value → Value → Bool
  | .list xs, .list ys => sameAll xs ys
  | .tuple xs, .tuple ys => sameAll xs ys
  | .dict xs, .dict ys => xs.length == ys.length && sameEntries xs ys
  | a, b => sameAtom a b

def sameAll : List Value → List Value → Bool
  | [], [] => true
  | x :: xs, y :: ys => same x y && sameAll xs ys
  | _, _ => false

/-- Every entry of the first list has an equal one in the second. -/
def sameEntries : List (Value × Value) → List (Value × Value) → Bool
  | [], _ => true
  | (k, v) :: es, ys => ys.any (fun e => same k e.1 && same v e.2) && sameEntries es ys

end

mutual

/-- Whether a value can be the key of a dictionary. -/
def isKey : Value → Bool
  | .list _ => false
  | .dict _ => false
  | .array _ => false
  | .tuple vs => areKeys vs
  | _ => true

def areKeys : List Value → Bool
  | [] => true
  | v :: vs => isKey v && areKeys vs

end

/-- A dictionary of the entries: of equal keys the first keeps its place and
the last gives the value. -/
def entriesOf (pairs : List (Value × Value)) : Except Slip (List (Value × Value)) :=
  pairs.foldlM (fun es (k, v) =>
    if !k.isKey then .error .wrongType
    else if es.any (fun e => same e.1 k) then
      .ok (es.map fun e => if same e.1 k then (e.1, v) else e)
    else .ok (es ++ [(k, v)])) []

def lessBytes : List UInt8 → List UInt8 → Bool
  | _, [] => false
  | [], _ :: _ => true
  | x :: xs, y :: ys => x < y || (x == y && lessBytes xs ys)

/-! ## The order -/

/-- What is wrong with two values that have no order. With a number of a typed
array the wording is another library's. -/
def disorder (sign : String) (a b : Value) : Slip :=
  if a.spreads || b.spreads then .wrongType else .unordered sign a.className b.className

/-- A relation of two values that are no sequences. A relation that does not
apply to them is answered by `otherwise`. -/
def relates (r : Relation) (otherwise : Except Slip Bool) (a b : Value) : Except Slip Bool :=
  match a.operand?, b.operand? with
  | some x, some y => r.onOperands x y
  | _, _ =>
    if a.spreads || b.spreads then
      match relatesGrids r a b with
      | .error .wrongType => otherwise
      | answer => answer
    else otherwise

mutual

/-- Equality in a comparison. Values of different kinds differ, and arrays of
more than one entry have no single answer. -/
def equal : Value → Value → Except Slip Bool
  | .list xs, .list ys => if xs.length = ys.length then equalAll xs ys else .ok false
  | .tuple xs, .tuple ys => if xs.length = ys.length then equalAll xs ys else .ok false
  | a, b => relates .equal (.ok (same a b)) a b

def equalAll : List Value → List Value → Except Slip Bool
  | x :: xs, y :: ys => do if ← equal x y then equalAll xs ys else return false
  | _, _ => .ok true

end

mutual

/-- The strict order of values. -/
def less : Value → Value → Except Slip Bool
  | .list xs, .list ys => lessAll xs ys
  | .tuple xs, .tuple ys => lessAll xs ys
  | .bytes xs, .bytes ys => .ok (lessBytes xs ys)
  | a, b =>
    match a.text?, b.text? with
    | some s, some t => .ok (s < t)
    | _, _ => relates .below (.error (disorder "<" a b)) a b

/-- The first items that differ decide; a shorter sequence comes first. -/
def lessAll : List Value → List Value → Except Slip Bool
  | _, [] => .ok false
  | [], _ :: _ => .ok true
  | x :: xs, y :: ys => do if ← equal x y then lessAll xs ys else less x y

end

/-- Whether a value is one of the plain numbers, which the order ranks without
gaps. -/
def isRanked : Value → Bool
  | .bool _ => true
  | .int _ => true
  | .float x => (Place.ofFloat x).isSome
  | _ => false

/-- Whether a number is at or below another. -/
def atMost (a b : Value) : Except Slip Bool := relates .atMost (.error (disorder "<=" a b)) a b

end Value

end Minimize
