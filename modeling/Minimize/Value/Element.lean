-- Numbers in operations. A number of a typed array keeps its type, and a
-- plain number that meets it adapts: it takes that type, or the nearest one
-- with room for its kind. Two plain numbers follow plain arithmetic, in
-- which whole numbers have any size and are compared exactly.
import Minimize.Number.Place
import Minimize.Value.Basic
import Minimize.Fault

namespace Minimize

open Number

def truthNumber (b : Bool) : Int := if b then 1 else 0

/-- A whole number as a floating-point number, unless it is out of range. -/
def floatOfInt (i : Int) : Except Slip Float :=
  let x := ofInt i
  if isFinite x then .ok x else .error .tooLarge

/-! ## Widths -/

namespace Width

def bits : Width → Nat
  | .int8 => 8
  | .int16 => 16
  | .int32 => 32
  | .int64 => 64
  | .uint8 => 8
  | .uint16 => 16
  | .uint32 => 32
  | .uint64 => 64

def isSigned : Width → Bool
  | .int8 => true
  | .int16 => true
  | .int32 => true
  | .int64 => true
  | _ => false

/-- The smallest number of the width. -/
def least (w : Width) : Int := if w.isSigned then -(twoTo (w.bits - 1) : Int) else 0

/-- The number of the width that a whole number wraps round to. -/
def wrap (w : Width) (i : Int) : Int := (i - w.least) % twoTo w.bits + w.least

def holds (w : Width) (i : Int) : Bool := w.wrap i == i

/-- The signed width with at least so many bits. -/
def signed? (bits : Nat) : Option Width :=
  [Width.int8, .int16, .int32, .int64].find? (fun w => bits ≤ w.bits)

/-- The narrowest width with room for two. A signed one beside an unsigned
one has to be wider than that. -/
def join? (a b : Width) : Option Width :=
  if a.isSigned = b.isSigned then some (if a.bits ≥ b.bits then a else b)
  else
    let (s, u) := if a.isSigned then (a, b) else (b, a)
    signed? (max s.bits (2 * u.bits))

end Width

/-! ## Types of elements -/

/-- The type of a number of a typed array. -/
inductive ElementType where
  | truth
  | whole (w : Width)
  | single
  | double
  | complex
  | wideComplex
  deriving DecidableEq, Repr

namespace ElementType

def isComplex : ElementType → Bool
  | .complex => true
  | .wideComplex => true
  | _ => false

/-- Whether single precision is too narrow for the type. -/
def isWide : ElementType → Bool
  | .whole w => 16 < w.bits
  | .double => true
  | .wideComplex => true
  | _ => false

/-- The type with room for two. -/
def join : ElementType → ElementType → ElementType
  | .truth, t => t
  | t, .truth => t
  | .whole v, .whole w =>
    match v.join? w with
    | some u => .whole u
    | none => .double
  | s, t =>
    match s.isComplex || t.isComplex, s.isWide || t.isWide with
    | false, false => .single
    | false, true => .double
    | true, false => .complex
    | true, true => .wideComplex

end ElementType

/-! ## Operands -/

/-- A number that takes part in an operation: a plain one, or one of a typed
array. -/
inductive Operand where
  | truth (b : Bool)
  | whole (i : Int)
  | real (x : Float)
  | complex (re im : Float)
  | typed (c : Cell)

/-- The type of a numeric element. -/
def Cell.type? : Cell → Option ElementType
  | .whole w _ => some (.whole w)
  | .single _ => some .single
  | .double _ => some .double
  | .truth _ => some .truth
  | .text _ => none
  | .complex .. => some .complex
  | .wideComplex .. => some .wideComplex

/-- The number that a value is. -/
def Value.operand? : Value → Option Operand
  | .bool b => some (.truth b)
  | .int i => some (.whole i)
  | .float x => some (.real x)
  | .complex re im => some (.complex re im)
  | .cell c => c.type?.map fun _ => .typed c
  | _ => none

namespace Operand

/-- The name of the type of a number, as error texts give it. -/
def typeName : Operand → String
  | .truth _ => "bool"
  | .whole _ => "int"
  | .real _ => "float"
  | .complex .. => "complex"
  | .typed c => "numpy." ++ c.typeName

def type? : Operand → Option ElementType
  | .typed c => c.type?
  | _ => none

/-- The type that a number takes beside one of type `t`. -/
def beside (t : ElementType) : Operand → ElementType
  | .truth _ => t
  | .whole _ => if t = .truth then .whole .int64 else t
  | .real _ => match t with
    | .truth => .double
    | .whole _ => .double
    | t => t
  | .complex .. => match t with
    | .single => .complex
    | .complex => .complex
    | _ => .wideComplex
  | .typed c => (c.type?.map t.join).getD t

/-- The type in which two numbers are combined; plain numbers have none. -/
def common? (a b : Operand) : Option ElementType :=
  match a.type?, b.type? with
  | some t, _ => some (b.beside t)
  | none, some t => some (a.beside t)
  | none, none => none

/-- The whole number or truth value that the operand is. -/
def whole? : Operand → Option Int
  | .truth b => some (truthNumber b)
  | .whole i => some i
  | .typed (.whole _ i) => some i
  | .typed (.truth b) => some (truthNumber b)
  | _ => none

/-- The two parts of a number; a real one has no second. -/
def parts : Operand → Except Slip (Float × Float)
  | .truth b => .ok (ofInt (truthNumber b), ofInt 0)
  | .whole i => (floatOfInt i).map (·, ofInt 0)
  | .real x => .ok (x, ofInt 0)
  | .complex re im => .ok (re, im)
  | .typed c => match c with
    | .whole _ i => (floatOfInt i).map (·, ofInt 0)
    | .single x => .ok (x, ofInt 0)
    | .double x => .ok (x, ofInt 0)
    | .truth b => .ok (ofInt (truthNumber b), ofInt 0)
    | .text _ => .error .wrongType
    | .complex re im => .ok (re, im)
    | .wideComplex re im => .ok (re, im)

/-- The operand as an element of a type. A plain whole number must fit. -/
def cast (t : ElementType) (a : Operand) : Except Slip Cell :=
  match t with
  | .truth => match a.whole? with
    | some i => .ok (.truth (i ≠ 0))
    | none => .error .wrongType
  | .whole w => match a.whole? with
    | some i =>
      if a.type?.isNone && !w.holds i then .error .outOfRange else .ok (.whole w (w.wrap i))
    | none => .error .wrongType
  | .single => a.parts.map fun p => .single (Number.single p.1)
  | .double => a.parts.map fun p => .double p.1
  | .complex => a.parts.map fun p => .complex (Number.single p.1) (Number.single p.2)
  | .wideComplex => a.parts.map fun p => .wideComplex p.1 p.2

end Operand

/-! ## Arithmetic -/

inductive Operation where
  | plus
  | minus
  | times
  deriving DecidableEq, Repr

namespace Operation

def onInts : Operation → Int → Int → Int
  | .plus => (· + ·)
  | .minus => (· - ·)
  | .times => (· * ·)

def onFloats : Operation → Float → Float → Float
  | .plus => Float.add
  | .minus => Float.sub
  | .times => Float.mul

/-- The operation on complex numbers by their parts, every step rounded. -/
def onComplex (op : Operation) (round : Float → Float) (a b : Float × Float) : Float × Float :=
  match op with
  | .times =>
    (round (round (a.1 * b.1) - round (a.2 * b.2)),
      round (round (a.1 * b.2) + round (a.2 * b.1)))
  | _ => (round (op.onFloats a.1 b.1), round (op.onFloats a.2 b.2))

/-- The operation on truth values, which have no difference. -/
def onTruths : Operation → Bool → Bool → Except Slip Bool
  | .plus, a, b => .ok (a || b)
  | .minus, _, _ => .error .wrongType
  | .times, a, b => .ok (a && b)

/-- The operation on two elements of one type. Whole numbers wrap round. -/
def onCells (op : Operation) : Cell → Cell → Except Slip Cell
  | .truth a, .truth b => (op.onTruths a b).map .truth
  | .whole w i, .whole _ j => .ok (.whole w (w.wrap (op.onInts i j)))
  | .single x, .single y => .ok (.single (Number.single (op.onFloats x y)))
  | .double x, .double y => .ok (.double (op.onFloats x y))
  | .complex a b, .complex c d =>
    let r := op.onComplex Number.single (a, b) (c, d)
    .ok (.complex r.1 r.2)
  | .wideComplex a b, .wideComplex c d =>
    let r := op.onComplex id (a, b) (c, d)
    .ok (.wideComplex r.1 r.2)
  | _, _ => .error .wrongType

/-- The operation on two plain numbers. -/
def onPlain (op : Operation) (a b : Operand) : Except Slip Value :=
  match a.whole?, b.whole? with
  | some i, some j => .ok (.int (op.onInts i j))
  | _, _ => do
    let p ← a.parts
    let q ← b.parts
    match a, b with
    | .complex .., _ => return .complex (op.onComplex id p q).1 (op.onComplex id p q).2
    | _, .complex .. => return .complex (op.onComplex id p q).1 (op.onComplex id p q).2
    | _, _ => return .float (op.onFloats p.1 q.1)

/-- The operation on two numbers. -/
def onOperands (op : Operation) (a b : Operand) : Except Slip Value :=
  match a.common? b with
  | none => op.onPlain a b
  | some t => do return .cell (← op.onCells (← a.cast t) (← b.cast t))

end Operation

/-! ## Comparison -/

inductive Relation where
  | below
  | atMost
  | equal
  deriving DecidableEq, Repr

namespace Relation

def sign : Relation → String
  | .below => "<"
  | .atMost => "<="
  | .equal => "=="

def onPlaces : Relation → Option Place → Option Place → Bool
  | .below => Place.less
  | .atMost => Place.atMost
  | .equal => Place.same

/-- The relation of numbers of one precision. -/
def onFloats (r : Relation) (x y : Float) : Bool := r.onPlaces (Place.ofFloat x) (Place.ofFloat y)

def onInts (r : Relation) (i j : Int) : Bool :=
  r.onPlaces (some (.ofInt i)) (some (.ofInt j))

/-- Complex numbers are in the order of their first parts, and those with
equal first parts in the order of their second. -/
def onComplex (r : Relation) (a b : Float × Float) : Bool :=
  match r with
  | .equal => r.onFloats a.1 b.1 && r.onFloats a.2 b.2
  | _ =>
    (Number.less a.1 b.1 && !isNaN a.2 && !isNaN b.2) ||
      (Relation.equal.onFloats a.1 b.1 && r.onFloats a.2 b.2)

/-- The relation of two elements of one type. -/
def onCells (r : Relation) : Cell → Cell → Bool
  | .truth a, .truth b => r.onInts (truthNumber a) (truthNumber b)
  | .whole _ i, .whole _ j => r.onInts i j
  | .single x, .single y => r.onFloats x y
  | .double x, .double y => r.onFloats x y
  | .complex a b, .complex c d => r.onComplex (a, b) (c, d)
  | .wideComplex a b, .wideComplex c d => r.onComplex (a, b) (c, d)
  | _, _ => false

/-- The place of a plain number; the inner `none` is a value that is no
number, such as the result of zero by zero. -/
def place? : Operand → Option (Option Place)
  | .truth b => some (some (.ofInt (truthNumber b)))
  | .whole i => some (some (.ofInt i))
  | .real x => some (Place.ofFloat x)
  | _ => none

/-- The relation of two plain numbers. Real numbers are compared exactly by
place, and a complex number can only be equal to another. -/
def onPlain (r : Relation) (a b : Operand) : Except Slip Bool :=
  match place? a, place? b with
  | some p, some q => .ok (r.onPlaces p q)
  | _, _ =>
    match r with
    | .equal => do return r.onComplex (← a.parts) (← b.parts)
    | _ => .error (.unordered r.sign a.typeName b.typeName)

/-- The relation of two numbers. Whole numbers are compared exactly, all
others in the type that they have in common. -/
def onOperands (r : Relation) (a b : Operand) : Except Slip Bool :=
  match a.common? b with
  | none => r.onPlain a b
  | some t =>
    match a.whole?, b.whole? with
    | some i, some j => .ok (r.onInts i j)
    | _, _ => do return r.onCells (← a.cast t) (← b.cast t)

end Relation

end Minimize
