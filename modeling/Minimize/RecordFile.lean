-- Files of records: one JSON object a line. A header tells of the run, and
-- every record follows on a line of its own. Reading such a file passes over
-- blank lines and over lines that are no JSON at all.
import Minimize.Json.Reader
import Minimize.Json.Writer
import Minimize.Text.Lines

namespace Minimize.RecordFile

/-- The version of the format. -/
def formatVersion : Int := 1

def line (j : JsonValue) : String := String.ofList (j.chars ++ ['\n'])

/-- The header: the label of the run, the version, and the time. -/
def header (run : JsonValue) (stamp : String) : JsonValue :=
  .object [("type", .text "header"), ("run", run), ("format_version", .int formatVersion),
    ("created_at", .text stamp)]

/-- The object of a record. What a record has under `type` takes the place of
the mark. -/
def entry (r : Record) : JsonValue :=
  .object ((Table.ofList [("type", JsonValue.text "record")]).merge (r.map .ofScalar)).entries

/-- The members of a line, if it is to be kept. A list has no members to
take from, and a value that is no list nor object has nothing at all. -/
def kept (includeHeader : Bool) : JsonValue → Except Fault (Option (List (String × JsonValue)))
  | .object ms =>
    let rest := ms.filter fun m => m.1 ≠ "type"
    let isHeader := match (ms.find? (fun m => m.1 = "type")).map (·.2) with
      | some (.text s) => s == "header"
      | _ => false
    .ok (if isHeader && !includeHeader then none else some rest)
  | .list _ => .error (.slip .wrongType)
  | _ => .error (.slip .missingAttribute)

/-- What a line of a file gives. -/
def readLine (includeHeader : Bool) (cs : List Char) :
    Except Fault (Option (List (String × JsonValue))) :=
  match JsonValue.ofChars (Text.trimmed Text.isBlank cs) with
  | .ok j => kept includeHeader j
  | .error .malformedText => .ok none
  | .error s => .error (.slip s)

/-- The entries of a file, in order, without their marks. -/
def read (text : String) (includeHeader : Bool) :
    Except Fault (List (List (String × JsonValue))) := do
  return (← (Text.lines text.toList).mapM (readLine includeHeader)).filterMap id

/-- The entries of the file at a path, where there may be none. -/
def load (path : String) (text : Option String) (includeHeader : Bool) :
    Except Fault (List (List (String × JsonValue))) :=
  match text with
  | some t => read t includeHeader
  | none => .error (.argument (.missingRecords path))

end Minimize.RecordFile
