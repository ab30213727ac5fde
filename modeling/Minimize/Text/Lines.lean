-- The lines of a text. A line ends at a line feed, at a carriage return, or
-- at the two together.

namespace Minimize.Text

/-- The rest of the line at the head of a text, and the lines after it. -/
def lines : List Char → List (List Char)
  | [] => [[]]
  | '\r' :: '\n' :: rest => [] :: lines rest
  | '\r' :: rest => [] :: lines rest
  | '\n' :: rest => [] :: lines rest
  | c :: rest =>
    match lines rest with
    | [] => [[c]]
    | l :: ls => (c :: l) :: ls

/-- The text with a line feed at the end of every line. -/
def plainLines (s : String) : String :=
  "\n".intercalate ((lines s.toList).map String.ofList)

end Minimize.Text
