-- Spans of time. The engine needs little of them: to add and to subtract,
-- to hold one against a limit, and to show one as a number. Runs are timed
-- in floating-point seconds; any other reckoning will do as well, an exact
-- one in particular. A state that is filled in by hand may hold any value.
import Minimize.Count

namespace Minimize

/-- A reckoning of time. -/
class Span (τ : Type) extends Plain τ where
  zero : τ
  /-- Whether a span is longer than a limit. -/
  exceeds : τ → Float → Except Slip Bool
  toFloat : τ → Except Slip Float
  /-- The text with a fixed number of places. -/
  fixedText : Nat → τ → Except Slip String

/-- A reckoning of time that a clock can go by. -/
class Clock (τ : Type) extends Span τ where
  add : τ → τ → τ
  sub : τ → τ → τ

/-- What has passed when `base` had passed at the moment `started` and it is
now `now`. -/
def Clock.passed {τ : Type} [Clock τ] (base started now : τ) : τ := add base (sub now started)

/-- Floating-point seconds. -/
instance : Clock Float where
  toValue := .float
  ofValue? v := v.toFloat.toOption
  zero := Number.ofInt 0
  exceeds x limit := .ok (Number.less limit x)
  toFloat := .ok
  fixedText places x := .ok (Number.fixedText places x)
  add := Float.add
  sub := Float.sub

/-- Any value as a span. -/
instance : Span Value where
  toValue v := v
  ofValue? := some
  zero := .float (Number.ofInt 0)
  exceeds v limit := Value.less (.float limit) v
  toFloat := Value.toFloat
  fixedText := Value.fixedText

end Minimize
