-- The text of an array. All numbers of an array are laid out alike: the
-- points stand under one another, eight places are shown at most, and an
-- array with very large, very small or very different numbers is written
-- with exponents throughout. Lines are broken before they get too long, and
-- of a large array only the edges are shown.
import Minimize.Number.Layout
import Minimize.Value.Grid

namespace Minimize

open Number

/-- How many places are shown at most. -/
def Grid.places : Nat := 8

/-! ## Columns -/

/-- A number cut into what stands before the point, behind it, and in the
exponent. -/
structure Cut where
  whole : String
  fraction : String
  exponent : Int

namespace Cut

def withoutZeros (cs : List Char) : List Char := (cs.reverse.dropWhile (· == '0')).reverse

/-- A positive datum in positional notation. -/
def positional (negative : Bool) (m : Nat) (q : Int) : Cut :=
  let d := Format.binary64.shortest m q
  let n :=
    if -d.exponent ≤ Grid.places then d.coefficient * tenTo (d.exponent + Grid.places).toNat
    else roundedQuotient ((quotientOf m q).1 * tenTo Grid.places) (quotientOf m q).2
  let digits := digitsOf (n % tenTo Grid.places)
  let padded := List.replicate (Grid.places - digits.length) '0' ++ digits
  ⟨signText negative ++ toString (n / tenTo Grid.places), String.ofList (withoutZeros padded), 0⟩

/-- A positive datum with one digit before the point. -/
def scientific (negative : Bool) (m : Nat) (q : Int) : Cut :=
  let d := Format.binary64.shortest m q
  let e :=
    if decimalLength d.coefficient ≤ Grid.places + 1 then d
    else Decimal.significant (Grid.places + 1) (quotientOf m q).1 (quotientOf m q).2
  let digits := digitsOf e.coefficient
  ⟨signText negative ++ String.ofList (digits.take 1), String.ofList (digits.drop 1),
    e.exponent + digits.length - 1⟩

/-- The parts of a finite number. -/
def of? (isScientific : Bool) (x : Float) : Option Cut :=
  match datumOf x with
  | .finite negative 0 _ => some ⟨signText negative ++ "0", "", 0⟩
  | .finite negative m q =>
    some (if isScientific then scientific negative m q else positional negative m q)
  | _ => none

end Cut

/-- How the numbers of an array are laid out: the room before the point and
behind it, and that for the digits of an exponent. -/
structure Columns where
  isScientific : Bool
  left : Nat
  right : Nat
  exponent : Nat

namespace Columns

def magnitudes (xs : List Float) : List Float :=
  (xs.filter fun x => isFinite x && !(x == ofInt 0)).map Float.abs

def greatest (xs : List Float) : Float :=
  xs.foldl (fun m x => if Number.less m x then x else m) (ofInt 0)

def least (xs : List Float) : Float :=
  xs.foldl (fun m x => if Number.less x m then x else m) infinity

/-- Whether numbers are written with exponents: one of them is `1e8` or more,
or below `1e-4`, or the largest is more than a thousand times the smallest. -/
def needExponent (xs : List Float) : Bool :=
  match magnitudes xs with
  | [] => false
  | ms =>
    let high := greatest ms
    let low := least ms
    !Number.less high (ofDecimal false 1 8) || Number.less low (ofDecimal false 1 (-4)) ||
      Number.less (ofInt 1000) (high / low)

def widest (ns : List Nat) : Nat := ns.foldl max 0

def exponentDigits (e : Int) : Nat := max 2 (toString e.natAbs).length

/-- The text of what is no finite number. -/
def special? (x : Float) : Option String :=
  match datumOf x with
  | .finite .. => none
  | .infinite negative => some (infiniteText negative)
  | .notNumber => some "nan"

/-- The layout that numbers call for. -/
def fitting (xs : List Float) : Columns :=
  let isScientific := needExponent xs
  let cuts := xs.filterMap (Cut.of? isScientific)
  let left := widest (cuts.map fun c => c.whole.length)
  let right := widest (cuts.map fun c => c.fraction.length)
  let exponent := if isScientific then widest (cuts.map fun c => exponentDigits c.exponent) else 0
  let behind := if isScientific then exponent + 2 + right else right
  let specials := (xs.filterMap special?).map fun s => s.length - (behind + 1)
  ⟨isScientific, max left (widest specials), right, exponent⟩

/-- The room behind the point with the exponent. -/
def behind (c : Columns) : Nat := if c.isScientific then c.exponent + 2 + c.right else c.right

def spaces (n : Nat) : String := String.ofList (List.replicate n ' ')

/-- The text of a number in its column. -/
def write (c : Columns) (x : Float) : String :=
  match Cut.of? c.isScientific x with
  | none =>
    let s := (special? x).getD ""
    spaces (c.left + c.behind + 1 - s.length) ++ s
  | some p =>
    let front := spaces (c.left - p.whole.length) ++ p.whole ++ "." ++ p.fraction
    if c.isScientific then
      let digits := toString p.exponent.natAbs
      front ++ zeros (c.right - p.fraction.length) ++ (if p.exponent < 0 then "e-" else "e+") ++
        zeros (c.exponent - digits.length) ++ digits
    else front ++ spaces (c.right - p.fraction.length)

end Columns

/-! ## Lines -/

/-- How an array is written: what stands between two numbers, and how wide a
line may get. -/
structure GridStyle where
  separator : String
  width : Nat

/-- Where a text in an array stands: how far its lines are indented. -/
def withoutEnd (s : String) : String :=
  String.ofList ((s.toList.reverse.dropWhile (· == ' ')).reverse)

/-- Lines that are filled word by word: the finished ones, and the one that is
being filled. -/
structure Filling where
  done : String
  line : String

/-- One more word, on a new line if it does not fit any more; a line that
holds nothing yet takes any word. -/
def Filling.add (f : Filling) (width : Nat) (indent : String) (word : String) : Filling :=
  if f.line.length + word.length > width && f.line.length > indent.length then
    ⟨f.done ++ withoutEnd f.line ++ "\n", indent ++ word⟩
  else ⟨f.done, f.line ++ word⟩

/-- Above how many numbers an array is cut down to its edges, and how many
rows or numbers an edge has. -/
def Grid.threshold : Nat := 1000

def Grid.edge : Nat := 3

/-- What is shown of a list of rows or numbers: all, or the two edges with a
gap between them. -/
def edged {α : Type} (cut : Bool) (xs : List α) : List (Option α) :=
  if cut && 2 * Grid.edge < xs.length then
    (xs.take Grid.edge).map some ++ none :: (xs.drop (xs.length - Grid.edge)).map some
  else xs.map some

namespace Tensor

mutual

/-- The numbers that are shown. -/
def visible (cut : Bool) : Tensor → List Float
  | .number x => [x]
  | .row ts => visibleOf cut (if cut && 2 * Grid.edge < ts.length then
      some (Grid.edge, ts.length - Grid.edge) else none) 0 ts

def visibleOf (cut : Bool) (gap : Option (Nat × Nat)) (i : Nat) : List Tensor → List Float
  | [] => []
  | t :: ts =>
    let hidden := match gap with
      | some (first, last) => first ≤ i && i < last
      | none => false
    (if hidden then [] else visible cut t) ++ visibleOf cut gap (i + 1) ts

end

/-- A row of words between brackets. -/
def wordsText (style : GridStyle) (indent : String) (width : Nat) (words : List String) : String :=
  let room := width - 1
  let filled := match words.reverse with
    | [] => (⟨"", indent⟩ : Filling)
    | last :: before =>
      (before.reverse.foldl (fun (f : Filling) w =>
        let g := f.add room indent w
        { g with line := g.line ++ style.separator }) ⟨"", indent⟩).add room indent last
  "[" ++ String.ofList ((filled.done ++ filled.line).toList.drop indent.length) ++ "]"

mutual

/-- The text of an array of `axes` axes whose first line is indented already
and whose others are to be. -/
def laid (style : GridStyle) (columns : Columns) (cut : Bool) (axes : Nat) (indent : String)
    (width : Nat) : Tensor → String
  | .number x => columns.write x
  | .row ts =>
    let parts := laidAll style columns cut (axes - 1) (indent ++ " ") (width - 1) ts
    let shown := (edged cut parts).map (·.getD "...")
    if axes ≤ 1 then wordsText style indent width shown
    else
      "[" ++ (withoutEnd style.separator ++ String.ofList (List.replicate (axes - 1) '\n') ++
        indent).intercalate shown ++ "]"

def laidAll (style : GridStyle) (columns : Columns) (cut : Bool) (axes : Nat) (indent : String)
    (width : Nat) : List Tensor → List String
  | [] => []
  | t :: ts =>
    laid style columns cut axes indent width t :: laidAll style columns cut axes indent width ts

end

/-- The text of an array that stands behind a text of some length. -/
def text (style : GridStyle) (behind : Nat) (t : Tensor) : String :=
  if t.numbers.isEmpty then "[]"
  else
    let cut := Grid.threshold < t.numbers.length
    laid style (Columns.fitting (t.visible cut)) cut t.shape.length
      (Columns.spaces (behind + 1)) style.width t

/-- The longest line of an array. -/
def lineWidth : Nat := 75

/-- The text of an array by itself, its numbers parted by spaces. -/
def plain (t : Tensor) : String :=
  match t with
  | .number x => fullText x
  | _ => t.text ⟨" ", lineWidth⟩ 0

/-- Lengths in parentheses. -/
def shapeText (shape : List Nat) : String :=
  match shape with
  | [n] => "(" ++ toString n ++ ",)"
  | _ => "(" ++ ", ".intercalate (shape.map toString) ++ ")"

/-- What has to be said of an array beside its numbers: its shape if they do
not show it, and its type if there are none. -/
def remarks (t : Tensor) : List String :=
  let n := t.numbers.length
  (if (n = 0 ∧ t.shape ≠ [0]) ∨ Grid.threshold < n then ["shape=" ++ shapeText t.shape] else []) ++
    (if n = 0 then ["dtype=float64"] else [])

/-- The exact text of an array. -/
def shown (t : Tensor) : String :=
  let front := "array("
  let body := front ++ t.text ⟨", ", lineWidth - 1⟩ front.length
  match t.remarks with
  | [] => body ++ ")"
  | rs =>
    let extra := ", ".intercalate rs ++ ")"
    let last := ((body ++ ",").splitOn "\n").getLast?.getD ""
    body ++ "," ++ (if last.length + extra.length + 1 > lineWidth
      then "\n" ++ Columns.spaces front.length else " ") ++ extra

end Tensor

end Minimize
