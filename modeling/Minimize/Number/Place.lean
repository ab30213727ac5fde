-- Where a number stands on the extended line. Whole numbers of any size
-- and floating-point numbers are compared by place, so a comparison of the
-- two is exact: every finite floating-point number is a whole multiple of
-- `2 ^ -1074`. What is no number has no place, and compares with nothing.
import Minimize.Number.Binary64

namespace Minimize.Number

/-- A place: the two ends of the line, and the multiples of `2 ^ -1074`. -/
inductive Place where
  | below
  | point (steps : Int)
  | above
  deriving DecidableEq, Repr

namespace Place

/-- The strict order of the line. -/
def before : Place → Place → Bool
  | .below, .below => false
  | .below, _ => true
  | .point _, .below => false
  | .point a, .point b => a < b
  | .point _, .above => true
  | .above, _ => false

instance : LT Place := ⟨fun a b => a.before b = true⟩

instance (a b : Place) : Decidable (a < b) := inferInstanceAs (Decidable (_ = true))

instance : LE Place := ⟨fun a b => b.before a = false⟩

instance (a b : Place) : Decidable (a ≤ b) := inferInstanceAs (Decidable (_ = false))

theorem lt_irrefl (a : Place) : ¬ a < a := by
  cases a with
  | point s => exact fun h => Int.lt_irrefl s (of_decide_eq_true h)
  | _ => exact Bool.false_ne_true

theorem lt_trans {a b c : Place} (hab : a < b) (hbc : b < c) : a < c := by
  cases a <;> cases b <;> cases c <;> simp_all [LT.lt, before]
  exact Int.lt_trans hab hbc

theorem lt_or_eq_or_gt (a b : Place) : a < b ∨ a = b ∨ b < a := by
  cases a <;> cases b <;> simp [LT.lt, before]
  exact Int.lt_trichotomy _ _

def ofInt (i : Int) : Place := .point (i * twoTo 1074)

/-- The place of a datum, if it is a number. -/
def ofDatum : Datum → Option Place
  | .finite negative m e =>
    let steps : Int := m * twoTo (e + 1074).toNat
    some (.point (if negative then -steps else steps))
  | .infinite negative => some (if negative then .below else .above)
  | .notNumber => none

def ofFloat (x : Float) : Option Place := ofDatum (datumOf x)

/-- The order of numbers, false as soon as one side is no number. -/
def less : Option Place → Option Place → Bool
  | some a, some b => a.before b
  | _, _ => false

/-- At or below, false as soon as one side is no number. -/
def atMost : Option Place → Option Place → Bool
  | some a, some b => !b.before a
  | _, _ => false

/-- Equal numbers stand at one place. -/
def same : Option Place → Option Place → Bool
  | some a, some b => a == b
  | _, _ => false

end Place

/-- The order of floating-point numbers. -/
def less (x y : Float) : Bool := Place.less (Place.ofFloat x) (Place.ofFloat y)

def atMost (x y : Float) : Bool := Place.atMost (Place.ofFloat x) (Place.ofFloat y)

end Minimize.Number
