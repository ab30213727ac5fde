-- What a floating-point word stands for, and the word nearest to a
-- quotient. `Format.datum` reads a word, `Format.nearest` rounds a
-- quotient to a word, ties to the even word, and both serve every
-- interchange format: a number of stored fraction bits and a number of
-- exponent bits.

namespace Minimize.Number

/-- Two to a power. -/
def twoTo (k : Nat) : Nat := Nat.pow 2 k

/-- Ten to a power. -/
def tenTo (k : Nat) : Nat := Nat.pow 10 k

/-- A datum: `significand * 2 ^ exponent` with a sign, an infinity, or no
number at all. -/
inductive Datum where
  | finite (negative : Bool) (significand : Nat) (exponent : Int)
  | infinite (negative : Bool)
  | notNumber
  deriving DecidableEq, Repr

/-- A binary interchange format. -/
structure Format where
  fractionBits : Nat
  exponentBits : Nat
  deriving DecidableEq, Repr

namespace Format

def binary64 : Format := ⟨52, 11⟩
def binary32 : Format := ⟨23, 8⟩

/-- The exponent of the last significand bit of the smallest numbers. -/
def least (f : Format) : Int := 2 - twoTo (f.exponentBits - 1) - f.fractionBits

/-- The exponent field that marks infinities and words that are no
number. -/
def top (f : Format) : Nat := twoTo f.exponentBits - 1

def isNegative (f : Format) (word : Nat) : Bool :=
  word >>> (f.fractionBits + f.exponentBits) % 2 == 1

def exponentField (f : Format) (word : Nat) : Nat :=
  word >>> f.fractionBits % twoTo f.exponentBits

def fractionField (f : Format) (word : Nat) : Nat := word % twoTo f.fractionBits

/-- The datum of a word. -/
def datum (f : Format) (word : Nat) : Datum :=
  let e := f.exponentField word
  let m := f.fractionField word
  if e = f.top then
    if m = 0 then .infinite (f.isNegative word) else .notNumber
  else if e = 0 then .finite (f.isNegative word) m f.least
  else .finite (f.isNegative word) (twoTo f.fractionBits + m) (f.least + (e - 1 : Nat))

def signWord (f : Format) (negative : Bool) : Nat :=
  if negative then twoTo (f.fractionBits + f.exponentBits) else 0

def infinity (f : Format) (negative : Bool) : Nat :=
  f.signWord negative + f.top * twoTo f.fractionBits

end Format

/-- The whole number nearest to `num / den`, a half going to the even
neighbour. -/
def roundedQuotient (num den : Nat) : Nat :=
  let q := num / den
  let r := num % den
  if 2 * r > den ∨ (2 * r = den ∧ q % 2 = 1) then q + 1 else q

/-- The largest `e` with `2 ^ e ≤ num / den`, for positive `num` and `den`. -/
def quotientLog (num den : Nat) : Int :=
  let e : Int := num.log2 - den.log2
  let fits := if e ≥ 0 then den <<< e.toNat ≤ num else den ≤ num <<< (-e).toNat
  if fits then e else e - 1

namespace Format

/-- The word nearest to `num / den` with the given sign. The quotient is
cut to the format's precision, or to its smallest step, and rounded; a
carry runs over into the exponent field, and what leaves the range becomes
an infinity. -/
def nearest (f : Format) (negative : Bool) (num den : Nat) : Nat :=
  if num = 0 ∨ den = 0 then f.signWord negative
  else
    let step := max (quotientLog num den - f.fractionBits) f.least
    let m := if step ≥ 0 then roundedQuotient num (den <<< step.toNat)
      else roundedQuotient (num <<< (-step).toNat) den
    let word := (step - f.least).toNat * twoTo f.fractionBits + m
    if word ≥ f.top * twoTo f.fractionBits then f.infinity negative
    else f.signWord negative + word

end Format

end Minimize.Number
