-- Marked-up texts. A tag stands in square brackets, and starts with a small
-- letter, a number sign, a stroke or an at sign; one with a stroke ends what an
-- earlier one began. Tags are not shown. A backslash before a bracket makes it
-- plain text.
import Minimize.Fault
import Minimize.Markup.Picture
import Minimize.Markup.Style

namespace Minimize.Markup

/-- A piece of a marked-up text: plain text, or a tag with the place where it
stands. -/
inductive Piece where
  | plain (cs : List Char)
  | tag (place : Nat) (body : List Char)

/-- A text at its open brackets: what stands before the first one, and what
follows each. -/
def atBrackets : List Char → List Char × List (List Char)
  | [] => ([], [])
  | c :: rest =>
    let (first, others) := atBrackets rest
    if c = '[' then ([], first :: others) else (c :: first, others)

def opensTag (c : Char) : Bool := ('a' ≤ c && c ≤ 'z') || c == '#' || c == '/' || c == '@'

/-- The body of the tag whose open bracket stands before a text without open
brackets, and what follows the tag. -/
def body? (cs : List Char) : Option (List Char × List Char) :=
  match cs with
  | [] => none
  | c :: _ =>
    if opensTag c then
      match cs.dropWhile (· ≠ ']') with
      | [] => none
      | _ :: rest => some (cs.takeWhile (· ≠ ']'), rest)
    else none

/-- Plain text as a piece, unless it is empty. -/
def plainPiece (cs : List Char) : List Piece := if cs.isEmpty then [] else [.plain cs]

/-- The pieces of a tag behind backslashes. Two backslashes are one, and a
single one makes the tag plain text. -/
def escapedPieces (place backslashes : Nat) (body : List Char) : List Piece :=
  plainPiece (List.replicate (backslashes / 2) '\\') ++
    [if backslashes % 2 = 1 then .plain ('[' :: body ++ [']'])
      else .tag (place + backslashes / 2 * 2) body]

/-- The pieces of what follows open brackets, behind plain text that starts at
a place. -/
def piecesFrom (place : Nat) (plain : List Char) : List (List Char) → List Piece
  | [] => plainPiece plain
  | cs :: others =>
    match body? cs with
    | none => piecesFrom place (plain ++ '[' :: cs) others
    | some (body, rest) =>
      let backslashes := (plain.reverse.takeWhile (· = '\\')).length
      let words := plain.take (plain.length - backslashes)
      plainPiece words ++ escapedPieces (place + words.length) backslashes body ++
        piecesFrom (place + plain.length + body.length + 2) rest others

/-- The pieces of a marked-up text. -/
def pieces (cs : List Char) : List Piece :=
  let (first, others) := atBrackets cs
  piecesFrom 0 first others

/-- Plain text without the backslashes before its open brackets. -/
def unescaped : List Char → List Char
  | [] => []
  | [c] => [c]
  | c :: d :: rest =>
    if c = '\\' ∧ d = '[' then '[' :: unescaped rest else c :: unescaped (d :: rest)

/-- The name in the body of a tag, without what it is set to. -/
def tagName (body : List Char) : List Char := body.takeWhile (· ≠ '=')

/-- The open tags after a tag, the last one first. -/
def afterTag (opened : List String) (place : Nat) (body : List Char) :
    Except Fault (List String) :=
  match tagName body with
  | '/' :: name =>
    if name.all Text.isBlank then
      match opened with
      | _ :: others => .ok others
      | [] => .error (.markup (.nothingOpen place))
    else if opened.contains (normalForm name) then .ok (opened.erase (normalForm name))
    else .error (.markup (.notOpen (String.ofList body) place))
  | name => .ok (normalForm name :: opened)

/-- The text that pieces show, behind open tags. -/
def shownFrom (opened : List String) : List Piece → Except Fault (List Char)
  | [] => .ok []
  | .plain cs :: rest => do return withPictures (unescaped cs) ++ (← shownFrom opened rest)
  | .tag place body :: rest => do shownFrom (← afterTag opened place body) rest

/-- The text that a marked-up text shows. A tag that ends what no tag began is
a fault. -/
def shown (text : String) : Except Fault String := do
  return String.ofList (← shownFrom [] (pieces text.toList))

end Minimize.Markup
