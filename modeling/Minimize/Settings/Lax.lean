-- Lax reading of settings. A whole number may be written as a float without
-- a fraction, a truth value or a numeral; a float as any number or numeral;
-- a truth value as zero or one or one of a few words. Each reading either
-- gives the value or the complaint.
import Minimize.Period
import Minimize.Table
import Minimize.Text.Numeral
import Minimize.Value.Convert

namespace Minimize.Lax

open Number

/-! ## Numerals -/

/-- The characters without underscores, if none stands first, last or beside
another. -/
def joined (cs : List Char) : Option (List Char) :=
  let doubled := (cs.zip (cs.drop 1)).any fun p => p.1 == '_' && p.2 == '_'
  if cs.head? == some '_' || cs.getLast? == some '_' || doubled then none
  else some (cs.filter (· != '_'))

def isAsciiDigit (c : Char) : Bool := 0x30 ≤ c.toNat && c.toNat ≤ 0x39

/-- A whole number written without anything to spare: a minus sign or none,
then digits that do not begin with a zero, or a zero alone. -/
def bareInt? (cs : List Char) : Option Int :=
  let negative := cs.head? == some '-'
  let digits := if negative then cs.drop 1 else cs
  if digits.isEmpty || !digits.all isAsciiDigit then none
  else if digits.head? == some '0' && digits.length > 1 then none
  else some (if negative then -Text.digitsValue digits else Text.digitsValue digits)

/-- The most characters that a whole number may be written with. -/
def numeralLimit : Nat := 4300

/-- Whether the sign and the digits that a text begins with are too many. A
zero in front ends them. -/
def isTooLong (cs : List Char) : Bool :=
  let digits := if cs.head? == some '-' then cs.drop 1 else cs
  let row := digits.takeWhile isAsciiDigit
  digits.head? != some '0' && row.length + (cs.length - digits.length) > numeralLimit

/-- A numeral from its first digit other than zero on. The zeros may hold
underscores, and a minus sign or a point may follow them. -/
def withoutLeadingZeros : List Char → Option (List Char)
  | '0' :: rest =>
    match rest.dropWhile (fun c => c == '0' || c == '_') with
    | [] => (('0' :: rest).getLast?).map ([·])
    | '.' :: _ =>
      let zeros := '0' :: rest.takeWhile (fun c => c == '0' || c == '_')
      some (zeros.drop (zeros.length - 1) ++ rest.drop (zeros.length - 1))
    | c :: more => if c == '-' || isAsciiDigit c then some (c :: more) else none
  | c :: rest => if c == '-' || isAsciiDigit c then some (c :: rest) else none
  | [] => none

/-- The characters before a fraction of one zero or more. -/
def withoutZeroFraction (cs : List Char) : List Char :=
  match cs.dropWhile (· != '.') with
  | _ :: z :: fraction =>
    if (z :: fraction).all (· == '0') then cs.takeWhile (· != '.') else cs
  | _ => cs

/-- The whole number of a numeral. Blanks around it, a plus sign, zeros in
front, underscores between its digits and a fraction of zeros are allowed. -/
def looseInt? (cs : List Char) : Option Int := do
  let cs := Text.trimmed Text.isSpace cs
  let unsigned := if cs.head? == some '+' then cs.drop 1 else cs
  if cs.head? == some '+' && unsigned.head? == some '-' then none
  let digits ← joined (withoutZeroFraction (← withoutLeadingZeros unsigned))
  if digits.length > numeralLimit then none
  bareInt? digits

/-- The whole number of a numeral. Only one written without anything to
spare can be too long; a longer one is malformed otherwise. -/
def intOfNumeral (s : String) : Except Complaint Int :=
  if isTooLong s.toList then .error .intParsingSize
  else match looseInt? s.toList with
    | some i => .ok i
    | none => .error .intParsing

/-- The real number of a numeral: either with blanks around it or with
underscores inside. -/
def floatOfNumeral (s : String) : Except Complaint Float :=
  let plain (cs : List Char) :=
    if cs.any (fun c => c.toNat ≥ 0x80) then none else Text.real? cs
  match (plain (Text.trimmed Text.isSpace s.toList)).or (joined s.toList >>= plain) with
  | some x => .ok x
  | none => .error .floatParsing

/-! ## Values -/

/-- A float as a whole number: it must be finite, have no fraction, and fit
into a signed 64-bit word. -/
def intOfFloat (x : Float) : Except Complaint Int :=
  match truncated x with
  | none => .error .finiteNumber
  | some i =>
    if !isWhole x then .error .intFromFloat
    else if i.natAbs ≥ twoTo 63 then .error .intParsingSize
    else .ok i

/-- The text of bytes that are well-formed UTF-8. -/
def utf8? (bs : List UInt8) : Option String := String.fromUTF8? ⟨bs.toArray⟩

/-- What a value may be read as: a text, or a number of a typed element. -/
inductive Source where
  | text (s : String)
  | number (x : Float)
  | neither

/-- Bytes are taken for their text; `neither` if they are not well formed. -/
def Source.of : Value → Source
  | .text s => .text s
  | .cell (.text s) => .text s
  | .bytes bs => match utf8? bs with
    | some s => .text s
    | none => .neither
  | v => match v.toFloat with
    | .ok x => .number x
    | .error _ => .neither

/-- The complaint about a value that cannot be read at all: bytes count as a
text. -/
def unread (aboutText aboutType : Complaint) : Value → Complaint
  | .bytes _ => aboutText
  | _ => aboutType

def int (v : Value) : Except Complaint Int :=
  match v with
  | .int i => .ok i
  | .bool b => .ok (truthNumber b)
  | _ => match Source.of v with
    | .text s => intOfNumeral s
    | .number x => intOfFloat x
    | .neither => .error (unread .intParsing .intType v)

def float (v : Value) : Except Complaint Float :=
  match Source.of v with
  | .text s => floatOfNumeral s
  | .number x => .ok x
  | .neither => .error (unread .floatParsing .floatType v)

def text (v : Value) : Except Complaint String :=
  match v with
  | .bytes bs => match utf8? bs with
    | some s => .ok s
    | none => .error .stringUnicode
  | _ => match v.text? with
    | some s => .ok s
    | none => .error .stringType

def truthWords : List (String × Bool) :=
  [("0", false), ("off", false), ("f", false), ("false", false), ("n", false), ("no", false),
    ("1", true), ("on", true), ("t", true), ("true", true), ("y", true), ("yes", true)]

def truthOfWord (s : String) : Except Complaint Bool :=
  let word := String.ofList (Text.lowered s.toList)
  match truthWords.find? (fun w => w.1 = word) with
  | some w => .ok w.2
  | none => .error .boolParsing

def truthOfInt (i : Int) : Except Complaint Bool :=
  if i = 0 then .ok false
  else if i = 1 then .ok true
  else .error .boolParsing

/-- A float as a truth value. One that is no whole number of a signed 64-bit
word is of the wrong type. -/
def truthOfFloat (x : Float) : Except Complaint Bool :=
  match intOfFloat x with
  | .ok i => truthOfInt i
  | .error _ => .error .boolType

/-- A whole number as a truth value; one beyond a signed 64-bit word is of the
wrong type. -/
def truthOfWhole (i : Int) : Except Complaint Bool :=
  if -(twoTo 63 : Int) ≤ i ∧ i < twoTo 63 then truthOfInt i else .error .boolType

def truth (v : Value) : Except Complaint Bool :=
  match v with
  | .bool b => .ok b
  | .cell (.whole _ i) => truthOfWhole i
  | .int i => truthOfWhole i
  | _ => match Source.of v with
    | .text s => truthOfWord s
    | .number x => truthOfFloat x
    | .neither => .error (unread .boolParsing .boolType v)

/-! ## Bounds -/

def natural (v : Value) : Except Complaint Nat := do
  match ← int v with
  | .ofNat n => .ok n
  | .negSucc _ => .error .greaterThanEqual

def period (v : Value) : Except Complaint Period := do
  let n ← int v
  if h : 0 < n then .ok ⟨n, h⟩ else .error .greaterThan

/-- A float at or above zero. What is no number is not. -/
def duration (v : Value) : Except Complaint Float := do
  let x ← float v
  if atMost (ofInt 0) x then .ok x else .error .greaterThanEqual

/-- A setting that may be left open. -/
def optional {α : Type} (read : Value → Except Complaint α) :
    Value → Except Complaint (Option α)
  | .null => .ok none
  | v => (read v).map some

end Minimize.Lax
