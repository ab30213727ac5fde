-- JSON values. The members of an object stand in order under distinct
-- names; numbers are whole or floating-point, as they were written.
import Minimize.Record

namespace Minimize

inductive JsonValue where
  | null
  | bool (b : Bool)
  | int (i : Int)
  | float (x : Float)
  | text (s : String)
  | list (items : List JsonValue)
  | object (members : List (String × JsonValue))

namespace JsonValue

instance : Inhabited JsonValue := ⟨.null⟩

mutual

/-- The JSON value as a plain value. -/
def toValue : JsonValue → Value
  | .null => .null
  | .bool b => .bool b
  | .int i => .int i
  | .float x => .float x
  | .text s => .text s
  | .list js => .list (toValues js)
  | .object ms => .dict (toEntries ms)

def toValues : List JsonValue → List Value
  | [] => []
  | j :: js => toValue j :: toValues js

def toEntries : List (String × JsonValue) → List (Value × Value)
  | [] => []
  | (k, j) :: ms => (.text k, toValue j) :: toEntries ms

end

/-- A scalar as strict JSON, which has no infinities and no number that is
none: those are null. -/
def ofScalar : Scalar → JsonValue
  | .bool b => .bool b
  | .int i => .int i
  | .float x => if Number.isFinite x then .float x else .null
  | .text s => .text s
  | .typedText s => .text s

mutual

/-- A value of a kind that JSON has; others are null. -/
def ofValue : Value → JsonValue
  | .bool b => .bool b
  | .int i => .int i
  | .float x => .float x
  | .text s => .text s
  | .list vs => .list (ofValues vs)
  | .tuple vs => .list (ofValues vs)
  | _ => .null

def ofValues : List Value → List JsonValue
  | [] => []
  | v :: vs => ofValue v :: ofValues vs

end

end JsonValue

end Minimize
