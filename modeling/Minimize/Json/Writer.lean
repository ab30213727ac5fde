-- Writing JSON. Members and items are parted by a comma and a blank; every
-- character outside of printable ASCII is escaped by its UTF-16 units.
import Minimize.Json.Basic

namespace Minimize.JsonValue

open Text

/-- The escape of one UTF-16 unit. -/
def unitEscape (n : Nat) : List Char := '\\' :: 'u' :: hexDigits 4 n

/-- The escape of a code point: one unit, or two from `10000` on. -/
def pointEscape (n : Nat) : List Char :=
  if n < 0x10000 then unitEscape n
  else unitEscape (0xd800 + (n - 0x10000) / 0x400) ++ unitEscape (0xdc00 + (n - 0x10000) % 0x400)

def escape (c : Char) : List Char :=
  if c = '"' then ['\\', '"']
  else if c = '\\' then ['\\', '\\']
  else if c = '\n' then ['\\', 'n']
  else if c = '\r' then ['\\', 'r']
  else if c = '\t' then ['\\', 't']
  else if c.toNat = 8 then ['\\', 'b']
  else if c.toNat = 12 then ['\\', 'f']
  else if 0x20 ≤ c.toNat ∧ c.toNat ≤ 0x7e then [c]
  else pointEscape c.toNat

def textChars (s : String) : List Char := '"' :: (s.toList.flatMap escape ++ ['"'])

def floatChars (x : Float) : List Char :=
  match Number.datumOf x with
  | .notNumber => "NaN".toList
  | .infinite negative => (if negative then "-Infinity" else "Infinity").toList
  | _ => (Number.fullText x).toList

def intChars (i : Int) : List Char := (toString i).toList

mutual

/-- Whether the text of a value can be written. It cannot if there is a whole
number of too many digits in it. -/
def isWritable : JsonValue → Bool
  | .int i => Text.isWritable i
  | .list js => areWritable js
  | .object ms => membersWritable ms
  | _ => true

def areWritable : List JsonValue → Bool
  | [] => true
  | j :: js => isWritable j && areWritable js

def membersWritable : List (String × JsonValue) → Bool
  | [] => true
  | (_, j) :: ms => isWritable j && membersWritable ms

end

mutual

/-- The JSON text of a value. -/
def chars : JsonValue → List Char
  | .null => "null".toList
  | .bool b => (if b then "true" else "false").toList
  | .int i => intChars i
  | .float x => floatChars x
  | .text s => textChars s
  | .list [] => ['[', ']']
  | .list (j :: js) => '[' :: (chars j ++ itemsChars js)
  | .object [] => ['\x7b', '\x7d']
  | .object ((k, j) :: ms) => '\x7b' :: (textChars k ++ ':' :: ' ' :: (chars j ++ membersChars ms))

/-- The items after the first, and the end of the list. -/
def itemsChars : List JsonValue → List Char
  | [] => [']']
  | j :: js => ',' :: ' ' :: (chars j ++ itemsChars js)

/-- The members after the first, and the end of the object. -/
def membersChars : List (String × JsonValue) → List Char
  | [] => ['\x7d']
  | (k, j) :: ms => ',' :: ' ' :: (textChars k ++ ':' :: ' ' :: (chars j ++ membersChars ms))

end

/-- A member on a line of its own. -/
def memberLine (m : String × JsonValue) : List Char :=
  ' ' :: ' ' :: (textChars m.1 ++ ':' :: ' ' :: chars m.2)

/-- An object with each member on a line of its own. -/
def linesChars (ms : List (String × JsonValue)) : List Char :=
  '\x7b' :: '\n' :: ((ms.map memberLine).intersperse [',', '\n']).flatten ++ ['\n', '\x7d']

end Minimize.JsonValue
