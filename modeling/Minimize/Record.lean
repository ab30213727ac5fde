-- Records: what is told about one iteration. A record holds small values,
-- its scalars, under names, in the order in which the names first came.
-- Elements of typed arrays are taken as the plain numbers that they are; a
-- text out of an array keeps its type.
import Minimize.Table
import Minimize.Value.Convert
import Minimize.Value.Display

namespace Minimize

/-- A value of a record. -/
inductive Scalar where
  | bool (b : Bool)
  | int (i : Int)
  | float (x : Float)
  | text (s : String)
  | typedText (s : String)
  deriving DecidableEq

namespace Scalar

def toValue : Scalar → Value
  | .bool b => .bool b
  | .int i => .int i
  | .float x => .float x
  | .text s => .text s
  | .typedText s => .cell (.text s)

/-- The scalar that a value is taken for. -/
def ofValue? : Value → Option Scalar
  | .bool b => some (.bool b)
  | .int i => some (.int i)
  | .float x => some (.float x)
  | .text s => some (.text s)
  | .cell (.truth b) => some (.bool b)
  | .cell (.whole _ i) => some (.int i)
  | .cell (.single x) => some (.float x)
  | .cell (.double x) => some (.float x)
  | .cell (.text s) => some (.typedText s)
  | _ => none

/-- The scalar under `key` that a value is taken for. -/
def coerce (key : String) (v : Value) : Except Fault Scalar :=
  match ofValue? v with
  | some s => .ok s
  | none => .error (.argument (.recordValue key v.typeName))

/-- Equal scalars. A float that is no number equals none. -/
def same (a b : Scalar) : Bool := Value.same a.toValue b.toValue

/-- The text of a scalar for readers: floats in brief. -/
def brief : Scalar → String
  | .float x => Number.briefText x
  | s => s.toValue.plain

end Scalar

/-- What is told about one iteration. -/
abbrev Record := Table Scalar

namespace Record

/-- The record with a value under a key. -/
def set (r : Record) (key : String) (v : Value) : Except Fault Record :=
  (Scalar.coerce key v).map (r.insert key)

/-- The entry of a key that may be of any type. -/
def entryOf (key v : Value) : Except Fault (String × Scalar) :=
  match key.text? with
  | some k => (Scalar.coerce k v).map (k, ·)
  | none => .error (.argument (.recordKey key.typeName))

/-- The record with a value under a key that may be of any type. -/
def setAny (r : Record) (key v : Value) : Except Fault Record :=
  (entryOf key v).map fun e => r.insert e.1 e.2

/-- A record of entries, set one after the other. -/
def ofEntries (es : List (Value × Value)) : Except Fault Record :=
  es.foldlM (fun r e => setAny r e.1 e.2) Table.empty

/-- The record of a mapping given by pairs. -/
def ofPairs (pairs : List (Value × Value)) : Except Fault Record :=
  match Value.entriesOf pairs with
  | .ok es => ofEntries es
  | .error s => .error (.slip s)

/-- The entries of a mapping; nothing is the empty mapping. -/
def mappingEntries : Value → Except Fault (List (Value × Value))
  | .null => .ok []
  | .dict es => .ok es
  | _ => .error (.slip .missingAttribute)

/-- Distinct names with their values. A name must be a text. -/
def namedEntries (named : List (Value × Value)) : Except Fault (List (Value × Value)) :=
  match Value.entriesOf named with
  | .error s => .error (.slip s)
  | .ok es => if es.all (fun e => e.1.text?.isSome) then .ok es else .error (.slip .wrongType)

def isNamed (name : String) (e : Value × Value) : Bool := e.1.text? == some name

/-- The record of named values. The name `values` stands for a mapping that
comes before the other names, and `self` cannot be a name. -/
def ofNamed (named : List (Value × Value)) : Except Fault Record := do
  let es ← namedEntries named
  if es.any (isNamed "self") then .error (.slip .wrongType)
  else
    match es.find? (isNamed "values") with
    | none => ofEntries es
    | some e => do
      let first ← mappingEntries e.2
      ofEntries (first ++ es.filter (fun e => !isNamed "values" e))

/-- The record of a mapping with named values over it. -/
def ofBoth (mapping named : List (Value × Value)) : Except Fault Record := do
  let first ← match Value.entriesOf mapping with
    | .ok es => Except.ok es
    | .error s => .error (.slip s)
  let es ← namedEntries named
  if es.any (isNamed "self") || es.any (isNamed "values") then .error (.slip .wrongType)
  else ofEntries (first ++ es)

/-- Whether the record has an entry under a value. A value that cannot be
a key of any mapping is a slip. -/
def holds (r : Record) (key : Value) : Except Slip Bool :=
  if key.isKey then .ok (match key.text? with
    | some k => r.contains k
    | none => false)
  else .error .wrongType

/-- The exact text of a record. -/
def shown (r : Record) : String :=
  "KV(" ++ ", ".intercalate (r.entries.map fun e => e.1 ++ "=" ++ e.2.toValue.shown) ++ ")"

/-- The record's entries, with floats in brief, parted by `separator`. -/
def briefText (separator : String) (es : List (String × Scalar)) : String :=
  separator.intercalate (es.map fun e => e.1 ++ "=" ++ e.2.brief)

/-- The record as a mapping. -/
def toValue (r : Record) : Value :=
  .dict (r.entries.map fun e => (.text e.1, e.2.toValue))

end Record

end Minimize
