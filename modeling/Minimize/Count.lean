-- Reckonings of counts and of flags. A run counts in whole numbers and flags
-- by truth values. A state that is filled in by hand may hold any value in
-- their place, and an operation that the value does not allow is a slip.
import Minimize.Value.Arithmetic
import Minimize.Value.Display
import Minimize.Value.Truth

namespace Minimize

/-- What can be told as a value, and read back from the values that fit. -/
class Plain (α : Type) where
  toValue : α → Value
  ofValue? : Value → Option α

/-- A reckoning of counts. -/
class Count (κ : Type) extends Plain κ where
  zero : κ
  /-- One more. -/
  next : κ → Except Slip κ
  /-- Whether a count has come to a number. -/
  reaches : κ → Int → Except Slip Bool
  /-- Whether anything has been counted. -/
  counted : κ → Except Slip Bool
  same : κ → κ → Bool

/-- A reckoning of flags. -/
class Flag (φ : Type) extends Plain φ where
  ofBool : Bool → φ
  holds : φ → Except Slip Bool

/-- Whole numbers. -/
instance : Count Int where
  toValue := .int
  ofValue?
    | .int i => some i
    | _ => none
  zero := 0
  next i := .ok (i + 1)
  reaches i n := .ok (n ≤ i)
  counted i := .ok (i ≠ 0)
  same i j := i == j

/-- Truth values. -/
instance : Flag Bool where
  toValue := .bool
  ofValue?
    | .bool b => some b
    | _ => none
  ofBool b := b
  holds b := .ok b

/-- Any value as a count. -/
instance : Count Value where
  toValue v := v
  ofValue? := some
  zero := .int 0
  next v := v.plus (.int 1)
  reaches v n := (Value.int n).atMost v
  counted := Value.holds
  same := Value.same

/-- Any value as a flag. -/
instance : Flag Value where
  toValue v := v
  ofValue? := some
  ofBool := .bool
  holds := Value.holds

end Minimize
