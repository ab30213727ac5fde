-- The fewest decimal digits that read back as a given number. Around a
-- number lies the interval of all reals that round to it. On the grid of
-- `n`-digit decimals only the two neighbours of the number can be its best
-- decimal, so the first grid with a neighbour inside the interval gives
-- the answer: of two hits the nearer, of an exact tie the even one.
import Minimize.Number.Binary64

namespace Minimize.Number

/-- A positive decimal, `coefficient * 10 ^ exponent`. -/
structure Decimal where
  coefficient : Nat
  exponent : Int
  deriving DecidableEq, Repr

/-- A positive number and the interval that rounds to it, over one
denominator. The ends belong to the interval when it is `closed`. -/
structure Surroundings where
  low : Nat
  value : Nat
  high : Nat
  den : Nat
  closed : Bool
  deriving Repr

/-- The surroundings of `m * 2 ^ q`. Below a power of two the step is half
as wide, so the lower end is nearer there. The ends round to the even
significand. -/
def Format.surroundings (f : Format) (m : Nat) (q : Int) : Surroundings :=
  let below := if m = twoTo f.fractionBits ∧ f.least < q then 1 else 2
  let s := q - 2
  let up := if s ≥ 0 then twoTo s.toNat else 1
  let den := if s ≥ 0 then 1 else twoTo (-s).toNat
  ⟨(4 * m - below) * up, 4 * m * up, (4 * m + 2) * up, den, m % 2 == 0⟩

/-- The least `k` with `num / den < 10 ^ k`, for a positive quotient. -/
def decimalMagnitude (num den : Nat) : Int :=
  let k : Int := (decimalLength num : Int) - decimalLength den
  let reached := if k ≥ 0 then den * tenTo k.toNat ≤ num else den ≤ num * tenTo (-k).toNat
  if reached then k + 1 else k

/-- A decimal without trailing zeros in its coefficient. -/
def Decimal.stripped (d : Decimal) : Decimal :=
  if h : d.coefficient ≠ 0 ∧ d.coefficient % 10 = 0 then
    Decimal.stripped ⟨d.coefficient / 10, d.exponent + 1⟩
  else d
termination_by d.coefficient
decreasing_by omega

/-- The best decimal on the grid of multiples of `10 ^ exponent` that lies
in the surroundings. -/
def Surroundings.onGrid (s : Surroundings) (exponent : Int) : Option Decimal :=
  let scale := if exponent ≥ 0 then 1 else tenTo (-exponent).toNat
  let step := if exponent ≥ 0 then s.den * tenTo exponent.toNat else s.den
  let low := s.low * scale
  let value := s.value * scale
  let high := s.high * scale
  let c := value / step
  let inside (n : Nat) : Bool :=
    if s.closed then low ≤ n * step ∧ n * step ≤ high else low < n * step ∧ n * step < high
  let chosen :=
    match inside c, inside (c + 1) with
    | true, true => some (roundedQuotient value step)
    | true, false => some c
    | false, true => some (c + 1)
    | false, false => none
  match chosen with
  | some n => if n = 0 then none else some ⟨n, exponent⟩
  | none => none

/-- The shortest decimal of `m * 2 ^ q`. Seventeen digits always suffice;
they close the search. -/
def Format.shortest (f : Format) (m : Nat) (q : Int) : Decimal :=
  let s := f.surroundings m q
  let k := decimalMagnitude s.value s.den
  match (List.range 17).findSome? (fun i => s.onGrid (k - (i + 1 : Nat))) with
  | some d => d.stripped
  | none => ⟨s.value / s.den, 0⟩

/-- The decimal of `num / den` rounded to a number of significant digits,
ties to even. -/
def Decimal.significant (digits : Nat) (num den : Nat) : Decimal :=
  let e := decimalMagnitude num den - digits
  let c := if e ≥ 0 then roundedQuotient num (den * tenTo e.toNat)
    else roundedQuotient (num * tenTo (-e).toNat) den
  Decimal.stripped ⟨c, e⟩

end Minimize.Number
