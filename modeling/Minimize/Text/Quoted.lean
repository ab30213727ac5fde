-- The quoted form of a text. A single quote encloses it, or a double quote
-- when the text holds a single quote and no double one. The backslash, the
-- enclosing quote and every character that is not printable are escaped.
import Minimize.Text.Printable

namespace Minimize.Text

def hexDigit (n : Nat) : Char :=
  if n < 10 then Char.ofNat (0x30 + n) else Char.ofNat (0x61 + (n - 10))

/-- The `width` lowest hexadecimal digits of `n`. -/
def hexDigits : Nat → Nat → List Char
  | 0, _ => []
  | width + 1, n => hexDigits width (n / 16) ++ [hexDigit (n % 16)]

/-- The escape of a character that is not printable. -/
def pointEscape (n : Nat) : List Char :=
  if n < 0x100 then '\\' :: 'x' :: hexDigits 2 n
  else if n < 0x10000 then '\\' :: 'u' :: hexDigits 4 n
  else '\\' :: 'U' :: hexDigits 8 n

/-- How one character stands inside the quotes `quote`. -/
def quotedChar (quote c : Char) : List Char :=
  if c = '\\' ∨ c = quote then ['\\', c]
  else if c = '\n' then ['\\', 'n']
  else if c = '\r' then ['\\', 'r']
  else if c = '\t' then ['\\', 't']
  else if isPrintable c then [c]
  else pointEscape c.toNat

def quoteFor (cs : List Char) : Char :=
  if cs.contains '\'' && !cs.contains '"' then '"' else '\''

def quotedChars (cs : List Char) : List Char :=
  let quote := quoteFor cs
  quote :: (cs.flatMap (quotedChar quote) ++ [quote])

/-- The text in quotes. -/
def quoted (s : String) : String := String.ofList (quotedChars s.toList)

/-- How one byte stands inside the quotes `quote`. -/
def quotedByte (quote : Char) (b : UInt8) : List Char :=
  let n := b.toNat
  if n = 0x5c ∨ n = quote.toNat then ['\\', Char.ofNat n]
  else if n = 10 then ['\\', 'n']
  else if n = 13 then ['\\', 'r']
  else if n = 9 then ['\\', 't']
  else if 0x20 ≤ n ∧ n < 0x7f then [Char.ofNat n]
  else pointEscape n

/-- Bytes in quotes, marked by a leading `b`. -/
def quotedBytes (bs : List UInt8) : String :=
  let quote := quoteFor (bs.map (fun b => Char.ofNat b.toNat))
  String.ofList ('b' :: quote :: (bs.flatMap (quotedByte quote) ++ [quote]))

end Minimize.Text
