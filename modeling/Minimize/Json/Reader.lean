-- Reading JSON. A text is one value with blanks around it. Besides the
-- numbers of the standard, an infinity and a number that is none are read;
-- of members of one name, the first gives the place and the last the value.
-- A text that is no JSON is malformed; apart from that, a whole number with
-- too many digits is refused, and so are lists and objects that stand in
-- each other too deep.
import Minimize.Json.Basic

namespace Minimize.JsonValue

/-! ## Texts -/

def hexValue? (c : Char) : Option Nat :=
  let n := c.toNat
  if 0x30 ≤ n ∧ n ≤ 0x39 then some (n - 0x30)
  else if 0x61 ≤ n ∧ n ≤ 0x66 then some (n - 0x57)
  else if 0x41 ≤ n ∧ n ≤ 0x46 then some (n - 0x37)
  else none

/-- The UTF-16 unit that four digits give. -/
def unit? (a b c d : Char) : Option Nat := do
  return (((← hexValue? a) * 16 + (← hexValue? b)) * 16 + (← hexValue? c)) * 16 + (← hexValue? d)

def isHighUnit (n : Nat) : Bool := 0xd800 ≤ n && n < 0xdc00
def isLowUnit (n : Nat) : Bool := 0xdc00 ≤ n && n < 0xe000

/-- The character of a code point; a unit without its other half gives the
replacement character. -/
def ofPoint (n : Nat) : Char := if isHighUnit n || isLowUnit n then '\ufffd' else Char.ofNat n

/-- The character that a short escape stands for. -/
def shortEscape? (c : Char) : Option Char :=
  match c with
  | '"' => some '"'
  | '\\' => some '\\'
  | '/' => some '/'
  | 'b' => some (Char.ofNat 8)
  | 'f' => some (Char.ofNat 12)
  | 'n' => some '\n'
  | 'r' => some '\r'
  | 't' => some '\t'
  | _ => none

def consText (c : Char) (r : Option (List Char × List Char)) : Option (List Char × List Char) :=
  r.map fun p => (c :: p.1, p.2)

/-- A text after its opening quote, and what follows its closing quote. -/
def textTail : List Char → Option (List Char × List Char)
  | [] => none
  | '"' :: rest => some ([], rest)
  | '\\' :: 'u' :: a :: b :: c :: d :: '\\' :: 'u' :: e :: f :: g :: h :: rest =>
    match unit? a b c d with
    | none => none
    | some n =>
      match if isHighUnit n then unit? e f g h else none with
      | some m =>
        if isLowUnit m then
          consText (ofPoint (0x10000 + (n - 0xd800) * 0x400 + (m - 0xdc00))) (textTail rest)
        else consText (ofPoint n) (textTail ('\\' :: 'u' :: e :: f :: g :: h :: rest))
      | none => consText (ofPoint n) (textTail ('\\' :: 'u' :: e :: f :: g :: h :: rest))
  | '\\' :: 'u' :: a :: b :: c :: d :: rest =>
    match unit? a b c d with
    | none => none
    | some n => consText (ofPoint n) (textTail rest)
  | '\\' :: c :: rest =>
    match shortEscape? c with
    | none => none
    | some c' => consText c' (textTail rest)
  | c :: rest => if c.toNat < 0x20 || c == '\\' then none else consText c (textTail rest)

/-! ## Numbers -/

def isDigit (c : Char) : Bool := 0x30 ≤ c.toNat && c.toNat ≤ 0x39

/-- A fraction: a point with digits behind it, or nothing. -/
def fraction : List Char → List Char × List Char
  | '.' :: c :: rest =>
    if isDigit c then ((c :: rest).takeWhile isDigit, (c :: rest).dropWhile isDigit)
    else ([], '.' :: c :: rest)
  | cs => ([], cs)

/-- A sign of an exponent, and what follows it. -/
def exponentSign : List Char → Bool × List Char
  | '-' :: rest => (true, rest)
  | '+' :: rest => (false, rest)
  | cs => (false, cs)

/-- An exponent: a letter, a sign and digits, or nothing. -/
def exponent : List Char → Option Int × List Char
  | [] => (none, [])
  | c :: rest =>
    let (negative, more) := exponentSign rest
    let digits := more.takeWhile isDigit
    if (c = 'e' ∨ c = 'E') ∧ !digits.isEmpty then
      let n : Int := Text.digitsValue digits
      (some (if negative then -n else n), more.dropWhile isDigit)
    else (none, c :: rest)

/-- The digits before the point: a lone zero, or a row that starts with
another digit. -/
def wholePart : List Char → Option (List Char × List Char)
  | [] => none
  | '0' :: rest => some (['0'], rest)
  | c :: rest =>
    if isDigit c then some ((c :: rest).takeWhile isDigit, (c :: rest).dropWhile isDigit) else none

/-- What a text is that may be none. -/
def orMalformed {α : Type} (r : Option α) : Except Slip α :=
  match r with
  | some a => .ok a
  | none => .error .malformedText

/-- A number after its sign. It is whole if it has no fraction and no
exponent. -/
def number (negative : Bool) (cs : List Char) : Except Slip (JsonValue × List Char) := do
  let (whole, rest) ← orMalformed (wholePart cs)
  let (digits, rest) := fraction rest
  let (e, rest) := exponent rest
  if digits.isEmpty && e.isNone then
    if Text.digitLimit < whole.length then throw .badValue
    let n : Int := Text.digitsValue whole
    return (.int (if negative then -n else n), rest)
  else
    return (.float (Number.ofDecimal negative (Text.digitsValue (whole ++ digits))
      (e.getD 0 - digits.length)), rest)

/-! ## Values -/

def isSpace (c : Char) : Bool := c == ' ' || c == '\t' || c == '\n' || c == '\r'

def skip (cs : List Char) : List Char := cs.dropWhile isSpace

/-- The words that stand for values. -/
def words : List (List Char × JsonValue) :=
  [("null".toList, .null), ("true".toList, .bool true), ("false".toList, .bool false),
    ("NaN".toList, .float (Number.ofDatum .notNumber)),
    ("Infinity".toList, .float (Number.ofDatum (.infinite false))),
    ("-Infinity".toList, .float (Number.ofDatum (.infinite true)))]

/-- The word at the head of a text. -/
def word? (cs : List Char) : Option (JsonValue × List Char) :=
  (words.find? fun w => w.1.isPrefixOf cs).map fun w => (w.2, cs.drop w.1.length)

/-- A value that is no text, list or object. -/
def atom (cs : List Char) : Except Slip (JsonValue × List Char) :=
  match word? cs with
  | some r => .ok r
  | none =>
    match cs with
    | '-' :: rest => number true rest
    | _ => number false cs

/-- How deep lists and objects may stand in each other. -/
def depthLimit : Nat := 990

mutual

/-- The value at the head of a text, and what follows it, with so much room
for lists and objects in each other. -/
def value : Nat → Nat → List Char → Except Slip (JsonValue × List Char)
  | 0, _, _ => .error .malformedText
  | fuel + 1, room, cs =>
    match cs with
    | '"' :: rest => do
      let (s, rest) ← orMalformed (textTail rest)
      return (.text (String.ofList s), rest)
    | '[' :: rest =>
      match room, skip rest with
      | 0, _ => .error .tooDeep
      | _ + 1, ']' :: rest => .ok (.list [], rest)
      | room + 1, rest => do
        let (js, rest) ← itemsTail fuel room rest
        return (.list js, rest)
    | '\x7b' :: rest =>
      match room, skip rest with
      | 0, _ => .error .tooDeep
      | _ + 1, '\x7d' :: rest => .ok (.object [], rest)
      | room + 1, rest => do
        let (ms, rest) ← membersTail fuel room [] rest
        return (.object ms, rest)
    | _ => atom cs

/-- Items up to the end of their list. -/
def itemsTail : Nat → Nat → List Char → Except Slip (List JsonValue × List Char)
  | 0, _, _ => .error .malformedText
  | fuel + 1, room, cs => do
    let (j, rest) ← value fuel room cs
    match skip rest with
    | ']' :: rest => return ([j], rest)
    | ',' :: rest =>
      let (js, rest) ← itemsTail fuel room (skip rest)
      return (j :: js, rest)
    | _ => throw .malformedText

/-- Members up to the end of their object, behind those that came before. -/
def membersTail : Nat → Nat → List (String × JsonValue) → List Char →
    Except Slip (List (String × JsonValue) × List Char)
  | 0, _, _, _ => .error .malformedText
  | fuel + 1, room, before, '"' :: rest => do
    let (k, rest) ← orMalformed (textTail rest)
    match skip rest with
    | ':' :: rest =>
      let (j, rest) ← value fuel room (skip rest)
      let ms := Table.put (String.ofList k) j before
      match skip rest with
      | '\x7d' :: rest => return (ms, rest)
      | ',' :: rest => membersTail fuel room ms (skip rest)
      | _ => throw .malformedText
    | _ => throw .malformedText
  | _ + 1, _, _, _ => .error .malformedText

end

/-- The value that a text is. -/
def ofChars (cs : List Char) : Except Slip JsonValue := do
  let (j, rest) ← value (2 * cs.length + 2) depthLimit (skip cs)
  if (skip rest).isEmpty then return j else throw .malformedText

end Minimize.JsonValue
