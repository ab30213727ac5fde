-- An observer that prints to a console: a line for every record, and a panel
-- at the end. The headline entries come first, then the rest as the record
-- has them. What is printed is marked-up text, and the keys and texts of a
-- record are part of it.
import Minimize.Markup.Basic
import Minimize.Observer.Basic
import Minimize.Text.Column

namespace Minimize.Console

variable {τ : Type}

/-! ## The screen -/

/-- The controls that a screen leaves out: the bell, the backspace, the feeds
but for the line feed, and the return. -/
def isLeftOut (c : Char) : Bool := c.toNat ∈ [7, 8, 11, 12, 13]

/-- What a marked-up text shows on a screen. -/
def onScreen (text : String) : Except Fault String := do
  return String.ofList ((← Markup.shown text).toList.filter (!isLeftOut ·))

/-- The lines that a marked-up text takes. -/
def screenLines (text : String) : Except Fault (List String) := do
  return ((← onScreen text).splitOn "\n").map Text.withoutTabs

/-- A marked-up text in one line. -/
def inOneLine (text : String) : Except Fault String := do
  return Text.withoutTabs (" ".intercalate ((← onScreen text).splitOn "\n"))

/-! ## Lines -/

/-- A text in a style. -/
def styled (style text : String) : String := "[" ++ style ++ "]" ++ text ++ "[/" ++ style ++ "]"

/-- The entries that come first, behind the iteration. -/
def headline : List String := ["cost", "best_cost", "time"]

/-- The text of an iteration; a truth value is told as a number. -/
def iterationText : Scalar → String
  | .bool b => toString (truthNumber b)
  | s => s.toValue.plain

def headlinePart (r : Record) (key : String) : Option String :=
  (r.get? key).map fun s => key ++ " " ++ styled "green" s.brief

def iterationPart (r : Record) : Option String :=
  (r.get? "iter").map fun s =>
    styled "bold cyan" ("iter " ++ Text.padLeft 5 (iterationText s))

def extraPart (e : String × Scalar) : Option String :=
  if e.1 = "iter" ∨ e.1 ∈ headline then none
  else some (styled "dim" (e.1 ++ "=" ++ e.2.brief))

/-- The line of a record, marked up. -/
def line (showExtra : Bool) (r : Record) : String :=
  "  ".intercalate ((iterationPart r).toList ++ headline.filterMap (headlinePart r) ++
    (if showExtra then r.entries.filterMap extraPart else []))

/-! ## The panel -/

def dashes (n : Nat) : String := String.ofList (List.replicate n '─')

/-- The width of the column of field names. -/
def fieldWidth : Nat := 14

/-- A row of a panel whose inside is `width` columns wide. -/
def row (width : Nat) (field value : String) : String :=
  "│" ++ Text.padRight width ("  " ++ Text.padRight fieldWidth field ++ "  " ++ value) ++ "│"

/-- The rows of a field, whose value may have several lines. -/
def rows (width : Nat) (field : String) : List String → List String
  | [] => [row width field ""]
  | first :: rest => row width field first :: rest.map (row width "")

/-- The upper edge of a panel, with a title in its middle. -/
def upperEdge (width : Nat) (title : String) : String :=
  let spare := width - (Text.columns title + 2)
  "╭" ++ dashes (spare / 2) ++ " " ++ title ++ " " ++ dashes (spare - spare / 2) ++ "╮"

/-- What the panel tells. -/
def fields [Span τ] (outcome : Outcome τ) (cost : Float) (time : String) :
    List (String × String) :=
  [("Best cost", Number.briefText cost),
    ("Best iteration", toString outcome.state.book.lastBestIteration),
    ("Iterations", toString outcome.iterations), ("Termination", outcome.reasonText),
    ("Time", time ++ "s")]

/-- A panel with a title and fields, all of them marked up. -/
def panel (width : Nat) (title : String) (es : List (String × String)) :
    Except Fault (List String) := do
  let inside := width - 2
  let title ← inOneLine (styled "bold" title)
  let es ← es.mapM fun e => return rows inside e.1 (← screenLines e.2)
  return upperEdge inside title :: es.flatten ++ ["╰" ++ dashes inside ++ "╯"]

def print (slot : Nat) (ls : List String) (o : Outlets) : Outlets :=
  o.update slot fun t => { t with printed := ls.foldl (fun s l => s ++ l ++ "\n") t.printed }

/-- The panel that tells of an outcome. -/
def panelOf [Span τ] (width : Nat) (outcome : Outcome τ) : Except Fault (List String) := do
  let cost ← (outcome.bestCost.toFloat).mapError .slip
  let time ← (Span.fixedText 3 outcome.state.book.elapsed).mapError .slip
  panel width outcome.solverName (fields outcome cost time)

def observer [Span τ] (slot width : Nat) (showExtra : Bool) : Observer τ where
  typeName := "ConsoleObserver"
  setup := Observer.idle
  notify r o := .attempt o ((screenLines (line showExtra r)).map fun ls => print slot ls o)
  finish := some fun outcome o =>
    .attempt o ((panelOf width outcome).map fun ls => print slot ls o)

end Minimize.Console
