-- Numbers written as text. A whole number is a sign and digits; a real
-- number may have a point, an exponent, or be an infinity or no number.
-- Spaces around a numeral do not count, and a single underscore may stand
-- between two digits.
import Minimize.Number.Binary64
import Minimize.Text.Blank
import Minimize.Text.Digit

namespace Minimize.Text

open Number

/-- The characters without the underscores, if each of those stands between
two digits. -/
def withoutSeparators : List Char → Option (List Char)
  | [] => some []
  | '_' :: _ => none
  | c :: '_' :: d :: rest =>
    if isDigit c && isDigit d then (withoutSeparators (d :: rest)).map (c :: ·) else none
  | c :: rest => (withoutSeparators rest).map (c :: ·)

/-- A leading sign, and what follows it. -/
def signed : List Char → Bool × List Char
  | '-' :: rest => (true, rest)
  | '+' :: rest => (false, rest)
  | cs => (false, cs)

/-- The whole number that the text writes. There is none if it has too many
digits. -/
def wholeNumber? (s : String) : Option Int :=
  match withoutSeparators (trimmed isSpace s.toList) with
  | none => none
  | some cs =>
    let (negative, digits) := signed cs
    if digits.isEmpty || !digits.all isDigit || digitLimit < digits.length then none
    else some (if negative then -digitsValue digits else digitsValue digits)

/-- An exponent part: nothing, or a letter, a sign and digits to the end. -/
def exponentPart? : List Char → Option Int
  | [] => some 0
  | c :: rest =>
    if c = 'e' ∨ c = 'E' then
      let (negative, digits) := signed rest
      if digits.isEmpty || !digits.all isDigit then none
      else some (if negative then -digitsValue digits else digitsValue digits)
    else none

/-- A decimal numeral after its sign: digits with a point before, among or
behind them, and an exponent part. -/
def decimal? (negative : Bool) (cs : List Char) : Option Float :=
  let whole := cs.takeWhile isDigit
  let rest := cs.dropWhile isDigit
  let (fraction, rest) := match rest with
    | '.' :: more => (more.takeWhile isDigit, more.dropWhile isDigit)
    | _ => ([], rest)
  if whole.isEmpty && fraction.isEmpty then none
  else (exponentPart? rest).map fun e =>
    ofDecimal negative (digitsValue (whole ++ fraction)) (e - fraction.length)

def lowered (cs : List Char) : List Char := cs.map Char.toLower

/-- The real number that trimmed characters without underscores write. -/
def real? (cs : List Char) : Option Float :=
  let (negative, rest) := signed cs
  let name := String.ofList (lowered rest)
  if name = "inf" ∨ name = "infinity" then some (ofDatum (.infinite negative))
  else if name = "nan" then some (ofDatum .notNumber)
  else decimal? negative rest

/-- The real number that the text writes. -/
def realNumber? (s : String) : Option Float :=
  match withoutSeparators (trimmed isSpace s.toList) with
  | none => none
  | some cs => real? cs

end Minimize.Text
