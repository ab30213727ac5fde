-- Sums, differences and products of values. Numbers are combined as
-- operands, arrays entry by entry; sequences can be put together and
-- repeated. Anything else is a slip. A sequence can also be changed in
-- place, item by item, and what was changed before a slip stays changed.
import Minimize.Value.Convert

namespace Minimize.Value

/-- The items of a value that can be gone through. -/
def elements : Value → Except Slip (List Value)
  | .list vs => .ok vs
  | .tuple vs => .ok vs
  | .dict es => .ok (es.map (·.1))
  | .text s => .ok (s.toList.map fun c => .text (String.singleton c))
  | .cell (.text s) => .ok (s.toList.map fun c => .text (String.singleton c))
  | .bytes bs => .ok (bs.map fun b => .int b.toNat)
  | .array (.row ts) => .ok (ts.map fun
    | .number x => .cell (.double x)
    | t => .array t)
  | _ => .error .wrongType

/-! ## Sequences -/

/-- How often a factor repeats a sequence. -/
def times? : Value → Option Nat
  | .bool b => some (truthNumber b).toNat
  | .int i => some i.toNat
  | .cell (.whole _ i) => some i.toNat
  | _ => none

def repeated {α : Type} (n : Nat) (xs : List α) : List α := (List.replicate n xs).flatten

/-- A sequence repeated. -/
def repeat? (n : Nat) : Value → Option Value
  | .list vs => some (.list (repeated n vs))
  | .tuple vs => some (.tuple (repeated n vs))
  | .text s => some (.text (String.ofList (repeated n s.toList)))
  | .bytes bs => some (.bytes (repeated n bs))
  | _ => none

/-- Two sequences of one kind put together. -/
def joined? : Value → Value → Option Value
  | .list xs, .list ys => some (.list (xs ++ ys))
  | .tuple xs, .tuple ys => some (.tuple (xs ++ ys))
  | .bytes xs, .bytes ys => some (.bytes (xs ++ ys))
  | a, b => match a.text?, b.text? with
    | some s, some t => some (.text (s ++ t))
    | _, _ => none

/-- What an operation makes of sequences. -/
def onSequences? (op : Operation) (a b : Value) : Option Value :=
  match op with
  | .plus => joined? a b
  | .minus => none
  | .times => (a.times?.bind b.repeat?).or (b.times?.bind a.repeat?)

/-! ## Operations -/

/-- An operation on two values. -/
def apply (op : Operation) (a b : Value) : Except Slip Value :=
  match a.operand?, b.operand? with
  | some x, some y => op.onOperands x y
  | _, _ =>
    match onSequences? op a b with
    | some v => .ok v
    | none => if a.spreads || b.spreads then onGrids op a b else .error .wrongType

def plus : Value → Value → Except Slip Value := apply .plus

def minus : Value → Value → Except Slip Value := apply .minus

def times : Value → Value → Except Slip Value := apply .times

/-- The sum of values from left to right, from zero on. -/
def total (vs : List Value) : Except Slip Value := vs.foldlM plus (.float (Number.ofInt 0))

/-! ## Changes in place -/

/-- An operation that keeps the object on its left: a list grows, and an array
keeps its shape. -/
def absorb (op : Operation) (a b : Value) : Except Slip Value :=
  match a with
  | .list xs =>
    if op = .plus && !b.spreads then do return .list (xs ++ (← b.elements)) else apply op a b
  | .array t => do
    match ← onGrids op a b with
    | .array u => if u.shape = t.shape then return .array u else throw .badValue
    | v => if t.shape = [] then return .array (.number (← v.toFloat)) else throw .badValue
  | _ => apply op a b

/-- Changes items one after the other, and tells what stopped it. -/
def changeAll (f : Value → Except Slip Value) : List Value → List Value × Except Slip Unit
  | [] => ([], .ok ())
  | v :: vs =>
    match f v with
    | .error e => (v :: vs, .error e)
    | .ok w =>
      let (ws, r) := changeAll f vs
      (w :: ws, r)

/-- An entry of an array changed; it stays a real number, or a row of its
shape. -/
def changedEntry (op : Operation) (b : Value) : Tensor → Except Slip Tensor
  | .number x => do return .number (← (← apply op (.cell (.double x)) b).toFloat)
  | t => do
    match ← absorb op (.array t) b with
    | .array u => return u
    | _ => throw .badValue

def changeEntries (op : Operation) (b : Value) : List Tensor → List Tensor × Except Slip Unit
  | [] => ([], .ok ())
  | t :: ts =>
    match changedEntry op b t with
    | .error e => (t :: ts, .error e)
    | .ok u =>
      let (us, r) := changeEntries op b ts
      (u :: us, r)

/-- Changes the values under the first whole numbers, one after the other. -/
def changeNumbered (f : Value → Except Slip Value) (es : List (Value × Value)) :
    List Nat → List (Value × Value) × Except Slip Unit
  | [] => (es, .ok ())
  | n :: ns =>
    match es.find? (fun e => same e.1 (.int n)) with
    | none => (es, .error .missingKey)
    | some (_, v) =>
      match f v with
      | .error e => (es, .error e)
      | .ok w => changeNumbered f (es.map fun e => if same e.1 (.int n) then (e.1, w) else e) ns

/-- Changes every item of a value in place. Items of a sequence that is fixed
cannot be put back, but a list in front of it has changed by then. -/
def change (op : Operation) (v b : Value) : Value × Except Slip Unit :=
  match v with
  | .list vs =>
    let (ws, r) := changeAll (absorb op · b) vs
    (.list ws, r)
  | .array (.row ts) =>
    let (us, r) := changeEntries op b ts
    (.array (.row us), r)
  | .dict es =>
    let (fs, r) := changeNumbered (absorb op · b) es (List.range es.length)
    (.dict fs, r)
  | .tuple (v :: vs) =>
    match v, absorb op v b with
    | .list _, .ok (.list ws) => (.tuple (.list ws :: vs), .error .wrongType)
    | .array _, .ok (.array u) => (.tuple (.array u :: vs), .error .wrongType)
    | _, .ok _ => (.tuple (v :: vs), .error .wrongType)
    | _, .error e => (.tuple (v :: vs), .error e)
  | .tuple [] => (.tuple [], .ok ())
  | .text s => (.text s, if s.isEmpty then .ok () else .error .wrongType)
  | .cell (.text s) => (.cell (.text s), if s.isEmpty then .ok () else .error .wrongType)
  | .bytes bs => (.bytes bs, if bs.isEmpty then .ok () else .error .wrongType)
  | v => (v, .error .wrongType)

end Minimize.Value
