-- Floating-point numbers by what they stand for: from a quotient, a whole
-- number or a decimal to the nearest number, and back to the whole part.
-- A decimal of any length and any exponent is read in bounded work, since
-- an exponent far outside the range settles the answer at once.
import Minimize.Number.Datum

namespace Minimize.Number

def datumOf (x : Float) : Datum := Format.binary64.datum x.toBits.toNat

def ofWord (word : Nat) : Float := Float.ofBits (UInt64.ofNat word)

/-- The number nearest to `num / den` with the given sign. -/
def ofQuotient (negative : Bool) (num den : Nat) : Float :=
  ofWord (Format.binary64.nearest negative num den)

def infinity : Float := ofWord (Format.binary64.infinity false)

/-- The number nearest to a whole number. A whole number beyond the range
gives an infinity. -/
def ofInt (i : Int) : Float := ofQuotient (i < 0) i.natAbs 1

/-- The number of decimal digits of `n`, at least one. -/
def decimalLength (n : Nat) : Nat := if n < 10 then 1 else decimalLength (n / 10) + 1

/-- The number nearest to `coefficient * 10 ^ exponent`. Beyond `10 ^ 310`
every number is infinite, and below `10 ^ -330` every number is zero. -/
def ofDecimal (negative : Bool) (coefficient : Nat) (exponent : Int) : Float :=
  let magnitude := exponent + decimalLength coefficient
  if coefficient = 0 then ofWord (Format.binary64.signWord negative)
  else if magnitude > 310 then ofWord (Format.binary64.infinity negative)
  else if magnitude < -330 then ofWord (Format.binary64.signWord negative)
  else if exponent ≥ 0 then ofQuotient negative (coefficient * tenTo exponent.toNat) 1
  else ofQuotient negative coefficient (tenTo (-exponent).toNat)

/-- The whole part of a finite number, cut towards zero. -/
def truncated (x : Float) : Option Int :=
  match datumOf x with
  | .finite negative m e =>
    let whole : Nat := if e ≥ 0 then m <<< e.toNat else m >>> (-e).toNat
    some (if negative then -whole else whole)
  | _ => none

def isFinite (x : Float) : Bool :=
  match datumOf x with
  | .finite .. => true
  | _ => false

def isNaN (x : Float) : Bool :=
  match datumOf x with
  | .notNumber => true
  | _ => false

def isNegative (x : Float) : Bool :=
  match datumOf x with
  | .finite negative .. => negative
  | .infinite negative => negative
  | .notNumber => false

/-- A finite number without a fraction. -/
def isWhole (x : Float) : Bool :=
  match datumOf x with
  | .finite _ m e => e ≥ 0 || m % twoTo (-e).toNat == 0
  | _ => false

/-- The word of `x` rounded to single precision. -/
def singleWord (x : Float) : Nat :=
  match datumOf x with
  | .finite negative m e =>
    if e ≥ 0 then Format.binary32.nearest negative (m <<< e.toNat) 1
    else Format.binary32.nearest negative m (twoTo (-e).toNat)
  | .infinite negative => Format.binary32.infinity negative
  | .notNumber => Format.binary32.infinity false + 1

/-- The number that a datum stands for. -/
def ofDatum : Datum → Float
  | .finite negative m e =>
    if e ≥ 0 then ofQuotient negative (m <<< e.toNat) 1
    else ofQuotient negative m (twoTo (-e).toNat)
  | .infinite negative => ofWord (Format.binary64.infinity negative)
  | .notNumber => ofWord (Format.binary64.infinity false + 1)

/-- `x` rounded to single precision. -/
def single (x : Float) : Float := ofDatum (Format.binary32.datum (singleWord x))

end Minimize.Number
