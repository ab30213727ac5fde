-- A value as a number. Texts are read as numerals, a fraction is cut off
-- for a whole number, and what is neither is a slip.
import Minimize.Text.Numeral
import Minimize.Text.Quoted
import Minimize.Value.Compare

namespace Minimize

open Number

def intOfFloat (x : Float) : Except Slip Int :=
  match datumOf x with
  | .notNumber => .error .badValue
  | .infinite _ => .error .outOfRange
  | _ => match truncated x with
    | some i => .ok i
    | none => .error .badValue

/-- The number that a text is. The slip shows the text in its exact form. -/
def floatOfText (shown s : String) : Except Slip Float :=
  match Text.realNumber? s with
  | some x => .ok x
  | none => .error (.notNumeral shown)

def intOfText (s : String) : Except Slip Int :=
  match Text.wholeNumber? s with
  | some i => .ok i
  | none => .error .badValue

/-- Bytes as the text of their ASCII characters. -/
def asciiText (bs : List UInt8) : String :=
  String.ofList (bs.map fun b => Char.ofNat b.toNat)

namespace Value

/-- The value as a floating-point number. -/
def toFloat : Value → Except Slip Float
  | .bool b => .ok (ofInt (truthNumber b))
  | .int i => floatOfInt i
  | .float x => .ok x
  | .text s => floatOfText (Text.quoted s) s
  | .bytes bs => floatOfText (Text.quotedBytes bs) (asciiText bs)
  | .array (.number x) => .ok x
  | .array _ => .error .notSingle
  | .cell c => match c with
    | .whole _ i => floatOfInt i
    | .single x => .ok x
    | .double x => .ok x
    | .truth b => .ok (ofInt (truthNumber b))
    | .text s => floatOfText ("np.str_(" ++ Text.quoted s ++ ")") s
    | .complex re _ => .ok re
    | .wideComplex re _ => .ok re
  | v => .error (.notReal v.className)

/-- The value as a whole number. -/
def toInt : Value → Except Slip Int
  | .bool b => .ok (truthNumber b)
  | .int i => .ok i
  | .float x => intOfFloat x
  | .text s => intOfText s
  | .bytes bs => intOfText (asciiText bs)
  | .array (.number x) => intOfFloat x
  | .cell c => match c with
    | .whole _ i => .ok i
    | .single x => intOfFloat x
    | .double x => intOfFloat x
    | .truth b => .ok (truthNumber b)
    | .text s => intOfText s
    | .complex re _ => intOfFloat re
    | .wideComplex re _ => intOfFloat re
  | _ => .error .wrongType

end Value

/-- The element of an array of a type that a value is put into. -/
def Cell.cast (typeName : String) (v : Value) : Cell :=
  let i := v.toInt.toOption.getD 0
  let x := v.toFloat.toOption.getD (Number.ofInt 0)
  match Width.ofName? typeName with
  | some w => .whole w i
  | none =>
    match typeName with
    | "float32" => .single (Number.single x)
    | "float64" => .double x
    | "str_" => .text (v.text?.getD "")
    | "complex64" => match v with
      | .complex re im => .complex (Number.single re) (Number.single im)
      | _ => .complex (Number.single x) (Number.ofInt 0)
    | _ => .truth (i ≠ 0)

end Minimize
