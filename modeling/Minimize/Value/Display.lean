-- The text of a value. `Value.shown` is its exact form, in which texts are
-- quoted and typed elements name their type; `Value.plain` is its form in
-- running text, where a text stands for itself.
import Minimize.Value.Convert
import Minimize.Value.GridText
import Minimize.Text.Quoted

namespace Minimize

open Number

def truthText (b : Bool) : String := if b then "True" else "False"

/-- A complex number by the texts of its parts. The real part is left out
when it is a plain zero. -/
def complexParts (part : Float → String) (re im : Float) : String × String :=
  (if datumOf re = .finite false 0 Format.binary64.least then "" else part re,
    (if isNegative im then "" else "+") ++ part im ++ "j")

/-- A complex number with its parts in full, but without empty fractions. -/
def complexText (re im : Float) : String :=
  match complexParts wholeText re im with
  | ("", _) => wholeText im ++ "j"
  | (real, imaginary) => "(" ++ real ++ imaginary ++ ")"

/-- A complex number of a typed array, without parentheses. -/
def complexCell (part : Float → String) (re im : Float) : String :=
  match complexParts part re im with
  | ("", _) => part im ++ "j"
  | (real, imaginary) => real ++ imaginary

namespace Cell

/-- The text of the plain number or text that an element is. -/
def plain : Cell → String
  | .whole _ i => toString i
  | .single x => fullText x
  | .double x => fullText x
  | .truth b => truthText b
  | .text s => s
  | .complex re im => complexText re im
  | .wideComplex re im => complexText re im

def shown : Cell → String
  | .truth b => "np." ++ truthText b ++ "_"
  | .text s => "np.str_(" ++ Text.quoted s ++ ")"
  | .single x => "np.float32(" ++ singleText true x ++ ")"
  | .complex re im => "np.complex64(" ++ complexCell (singleText false) re im ++ ")"
  | .wideComplex re im => "np.complex128(" ++ complexCell wholeText re im ++ ")"
  | c => "np." ++ c.typeName ++ "(" ++ c.plain ++ ")"

end Cell

namespace Value

mutual

/-- The exact text of a value. -/
def shown : Value → String
  | .null => "None"
  | .bool b => truthText b
  | .int i => toString i
  | .float x => fullText x
  | .text s => Text.quoted s
  | .list vs => "[" ++ ", ".intercalate (shownAll vs) ++ "]"
  | .tuple vs => match shownAll vs with
    | [one] => "(" ++ one ++ ",)"
    | parts => "(" ++ ", ".intercalate parts ++ ")"
  | .dict es => "\x7b" ++ ", ".intercalate (shownEntries es) ++ "\x7d"
  | .array t => t.shown
  | .cell c => c.shown
  | .bytes bs => Text.quotedBytes bs
  | .complex re im => complexText re im
  | .sealed => "<Opaque>"

def shownAll : List Value → List String
  | [] => []
  | v :: vs => shown v :: shownAll vs

def shownEntries : List (Value × Value) → List String
  | [] => []
  | (k, v) :: es => (shown k ++ ": " ++ shown v) :: shownEntries es

end

/-- The text of a value in running text. -/
def plain : Value → String
  | .text s => s
  | .cell c => c.plain
  | .array t => t.plain
  | v => v.shown

mutual

/-- Whether the text of a value can be written. It cannot if there is a whole
number of too many digits in it. -/
def isWritable : Value → Bool
  | .int i => Text.isWritable i
  | .list vs => areWritable vs
  | .tuple vs => areWritable vs
  | .dict es => entriesWritable es
  | _ => true

def areWritable : List Value → Bool
  | [] => true
  | v :: vs => isWritable v && areWritable vs

def entriesWritable : List (Value × Value) → Bool
  | [] => true
  | (k, v) :: es => isWritable k && isWritable v && entriesWritable es

end

/-- The text of a number with a fixed number of places. A text is no number
here, even if it reads as one. -/
def fixedText (places : Nat) : Value → Except Slip String
  | .text _ => .error .badValue
  | .cell (.text _) => .error .badValue
  | .bytes _ => .error .wrongType
  | v => v.toFloat.map (Number.fixedText places)

/-- A value as what a fault is made of. -/
def wording (v : Value) : Wording := ⟨v.plain, v.shown⟩

end Value

end Minimize
