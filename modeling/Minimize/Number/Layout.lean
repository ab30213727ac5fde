-- How a number is laid out as text: the digits come from the rounding
-- rules, and a `Layout` decides where positional notation ends and what
-- stands behind a point. The full text of a number reads back the same;
-- the brief text has six significant digits; the fixed text has a given
-- number of places.
import Minimize.Number.Shortest

namespace Minimize.Number

/-- A decimal text is positional while its exponent lies between `from` and
`below`; otherwise it has one digit before the point and an exponent of two
digits or more. A whole positional number ends in `.0` when `keepsPoint`. -/
structure Layout where
  least : Int
  below : Int
  keepsPoint : Bool
  deriving DecidableEq, Repr

/-- Numbers in full: positional from `1e-04` up to below `1e16`. -/
def Layout.full : Layout := ⟨-4, 16, true⟩

/-- Numbers in brief: positional from `1e-04` up to six digits, without an
empty fraction. -/
def Layout.brief : Layout := ⟨-4, 6, false⟩

def zeros (n : Nat) : String := String.ofList (List.replicate n '0')

def digitsOf (n : Nat) : List Char := (toString n).toList

def signText (negative : Bool) : String := if negative then "-" else ""

/-- An exponent with its sign and at least two digits. -/
def exponentText (e : Int) : String :=
  let digits := toString e.natAbs
  (if e < 0 then "e-" else "e+") ++ (if digits.length < 2 then "0" ++ digits else digits)

/-- The text of a positive decimal whose coefficient has no trailing
zeros. -/
def Layout.write (l : Layout) (d : Decimal) : String :=
  let ds := digitsOf d.coefficient
  let point := d.exponent + ds.length
  if l.least ≤ point - 1 ∧ point - 1 < l.below then
    if point ≤ 0 then "0." ++ zeros (-point).toNat ++ String.ofList ds
    else if point ≥ ds.length then
      String.ofList ds ++ zeros (point - ds.length).toNat ++ (if l.keepsPoint then ".0" else "")
    else String.ofList (ds.take point.toNat) ++ "." ++ String.ofList (ds.drop point.toNat)
  else
    let rest := ds.drop 1
    String.ofList (ds.take 1) ++ (if rest.isEmpty then "" else "." ++ String.ofList rest) ++
      exponentText (point - 1)

def Layout.writeZero (l : Layout) : String := if l.keepsPoint then "0.0" else "0"

def infiniteText (negative : Bool) : String := signText negative ++ "inf"

/-- The text of a datum, given the decimal of a positive one. -/
def Layout.datumText (l : Layout) (decimal : Nat → Int → Decimal) : Datum → String
  | .finite negative m q =>
    signText negative ++ (if m = 0 then l.writeZero else l.write (decimal m q))
  | .infinite negative => infiniteText negative
  | .notNumber => "nan"

/-- The shortest text that reads back as the same number. -/
def fullText (x : Float) : String :=
  Layout.full.datumText Format.binary64.shortest (datumOf x)

/-- A positive datum as a quotient. -/
def quotientOf (m : Nat) (q : Int) : Nat × Nat :=
  if q ≥ 0 then (m <<< q.toNat, 1) else (m, twoTo (-q).toNat)

/-- The shortest text that reads back as the same number, without an empty
fraction. -/
def wholeText (x : Float) : String :=
  ({ Layout.full with keepsPoint := false }).datumText Format.binary64.shortest (datumOf x)

/-- The layout of a single-precision number: positional from `1e-04` up to
below `1e06`, as far as its exact value goes. -/
def singleLayout (keepsPoint : Bool) (m : Nat) (q : Int) : Layout :=
  if (quotientOf m q).1 * tenTo 4 < (quotientOf m q).2 then ⟨1, 0, keepsPoint⟩
  else ⟨-4, 6, keepsPoint⟩

/-- The shortest text that reads back as the same single-precision number. -/
def singleText (keepsPoint : Bool) (x : Float) : String :=
  match Format.binary32.datum (singleWord x) with
  | .finite negative m q =>
    (singleLayout keepsPoint m q).datumText Format.binary32.shortest (.finite negative m q)
  | d => (Layout.mk (-4) 6 keepsPoint).datumText Format.binary32.shortest d

/-- The text with six significant digits. -/
def briefText (x : Float) : String :=
  Layout.brief.datumText
    (fun m q => Decimal.significant 6 (quotientOf m q).1 (quotientOf m q).2) (datumOf x)

/-- The text with a fixed number of places, at least one, rounded exactly,
ties to even. -/
def fixedText (places : Nat) (x : Float) : String :=
  match datumOf x with
  | .finite negative m q =>
    let (num, den) := quotientOf m q
    let n := roundedQuotient (num * tenTo places) den
    let fraction := toString (n % tenTo places)
    signText negative ++ toString (n / tenTo places) ++ "." ++
      zeros (places - fraction.length) ++ fraction
  | .infinite negative => infiniteText negative
  | .notNumber => "nan"

end Minimize.Number
