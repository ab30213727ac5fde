-- The values that users hand to the engine and get back from it: a point,
-- a cost, a setting. The engine looks into few of them; a point is
-- whatever the solver and the problem agree on.
import Minimize.Number.Layout

namespace Minimize

/-- The width of a whole number taken out of a typed array. -/
inductive Width where
  | int8
  | int16
  | int32
  | int64
  | uint8
  | uint16
  | uint32
  | uint64
  deriving DecidableEq, Repr

/-- An element of a typed array. A `single` is a number of single precision,
and the parts of a `complex` are; those of a `wideComplex` are doubles. -/
inductive Cell where
  | whole (width : Width) (i : Int)
  | single (x : Float)
  | double (x : Float)
  | truth (b : Bool)
  | text (s : String)
  | complex (re im : Float)
  | wideComplex (re im : Float)
  deriving DecidableEq

/-- An array of floating-point numbers of any dimension. -/
inductive Tensor where
  | number (x : Float)
  | row (entries : List Tensor)

/-- A value. A `sealed` value is an object that nothing is known of but its
type. -/
inductive Value where
  | null
  | bool (b : Bool)
  | int (i : Int)
  | float (x : Float)
  | text (s : String)
  | list (items : List Value)
  | tuple (items : List Value)
  | dict (entries : List (Value × Value))
  | array (t : Tensor)
  | cell (c : Cell)
  | bytes (bs : List UInt8)
  | complex (re im : Float)
  | sealed

instance : Inhabited Tensor := ⟨.row []⟩
instance : Inhabited Value := ⟨.null⟩

namespace Width

def all : List Width := [.int8, .int16, .int32, .int64, .uint8, .uint16, .uint32, .uint64]

def name : Width → String
  | .int8 => "int8"
  | .int16 => "int16"
  | .int32 => "int32"
  | .int64 => "int64"
  | .uint8 => "uint8"
  | .uint16 => "uint16"
  | .uint32 => "uint32"
  | .uint64 => "uint64"

def ofName? (s : String) : Option Width := all.find? (fun w => w.name = s)

end Width

namespace Cell

def typeName : Cell → String
  | .whole w _ => w.name
  | .single _ => "float32"
  | .double _ => "float64"
  | .truth _ => "bool"
  | .text _ => "str_"
  | .complex .. => "complex64"
  | .wideComplex .. => "complex128"

end Cell

namespace Tensor

mutual

/-- The array as nested lists. -/
def toValue : Tensor → Value
  | .number x => .float x
  | .row ts => .list (toValues ts)

def toValues : List Tensor → List Value
  | [] => []
  | t :: ts => toValue t :: toValues ts

end

mutual

/-- The numbers of the array in order. -/
def numbers : Tensor → List Float
  | .number x => [x]
  | .row ts => numbersOf ts

def numbersOf : List Tensor → List Float
  | [] => []
  | t :: ts => numbers t ++ numbersOf ts

end

/-- A row of numbers. -/
def ofFloats (xs : List Float) : Tensor := .row (xs.map .number)

mutual

/-- The lengths of the array along its axes, of which all rows of an axis have
the same. -/
def shape : Tensor → List Nat
  | .number _ => []
  | .row ts => shapeOf 0 ts

def shapeOf (before : Nat) : List Tensor → List Nat
  | [] => [before]
  | t :: ts => (before + ts.length + 1) :: shape t

end

end Tensor

namespace Value

/-- The name of the value's type, as error texts give it. -/
def typeName : Value → String
  | .null => "NoneType"
  | .bool _ => "bool"
  | .int _ => "int"
  | .float _ => "float"
  | .text _ => "str"
  | .list _ => "list"
  | .tuple _ => "tuple"
  | .dict _ => "dict"
  | .array _ => "ndarray"
  | .cell c => c.typeName
  | .bytes _ => "bytes"
  | .complex .. => "complex"
  | .sealed => "Opaque"

/-- The name of the value's type, after that of what it comes from. -/
def className : Value → String
  | .array _ => "numpy.ndarray"
  | .cell c => "numpy." ++ c.typeName
  | v => v.typeName

/-- The type of the value as an error text shows it in angle brackets. -/
def typeText (v : Value) : String := "<class '" ++ v.className ++ "'>"

def floats (xs : List Float) : Value := .list (xs.map .float)

end Value

end Minimize
