-- The columns that a text takes on a screen, and texts filled up to a number
-- of columns or characters. A joiner hides the character behind it, and a
-- selector can widen the character before it.
import Minimize.Text.Width

namespace Minimize.Text

/-- The character that joins the next one to the picture before it. -/
def joiner : Char := Char.ofNat 0x200d

/-- The selector that asks for the coloured form of the picture before it. -/
def pictureSelector : Char := Char.ofNat 0xfe0f

/-- The columns of characters. The first one may be hidden by a joiner, and
`last?` is the character that a selector can still widen. -/
def columnsFrom (hidden : Bool) (last? : Option Char) : List Char → Nat
  | [] => 0
  | c :: rest =>
    if hidden then columnsFrom false last? rest
    else if c = joiner then columnsFrom true last? rest
    else if c = pictureSelector then
      (if last?.any (isIn growingRanges) then 1 else 0) + columnsFrom false none rest
    else columnsOf c + columnsFrom false (if columnsOf c = 0 then last? else some c) rest

def columnsIn (cs : List Char) : Nat := columnsFrom false none cs

def columns (s : String) : Nat := columnsIn s.toList

def blanks (n : Nat) : String := String.ofList (List.replicate n ' ')

/-- The text with blanks behind it up to a width. -/
def padRight (width : Nat) (s : String) : String := s ++ blanks (width - columns s)

/-- The text with blanks before it up to a number of characters. -/
def padLeft (width : Nat) (s : String) : String := blanks (width - s.length) ++ s

/-! ## Tabs -/

/-- The distance between two tab stops. -/
def tabWidth : Nat := 8

/-- The text with each tab filled up with blanks to the next tab stop, but by
one blank at least; `before` is what stands before it, backwards. -/
def expandAfter (column : Nat) (before : List Char) : List Char → List Char
  | [] => before.reverse
  | c :: rest =>
    if c = '\t' then
      let here := column + columnsIn before.reverse + 1
      let stop := (here + tabWidth - 1) / tabWidth * tabWidth
      before.reverse ++ List.replicate (stop - here + 1) ' ' ++ expandAfter stop [] rest
    else expandAfter column (c :: before) rest

/-- A line with its tabs filled up. -/
def withoutTabs (line : String) : String := String.ofList (expandAfter 0 [] line.toList)

end Minimize.Text
