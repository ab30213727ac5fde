-- An observer that writes records to a file, one JSON object a line. It is
-- set up by writing a header, to a fresh file or behind what stands there.
import Minimize.Observer.Basic
import Minimize.RecordFile

namespace Minimize.JsonLines

variable {τ : Type}

/-- Where a file starts. -/
inductive Start where
  | fresh
  | append
  deriving DecidableEq, Repr

/-- The start that a letter stands for. -/
def Start.ofValue (v : Value) : Except Fault Start :=
  if v.text? = some "w" then .ok .fresh
  else if v.text? = some "a" then .ok .append
  else .error (.argument (.appendMode v.shown))

/-- Opens the file and writes the header. -/
def opened (path : String) (run : JsonValue) (start : Start) (stamp : String) (o : Outlets) :
    Outlets :=
  let o1 := match start with
    | .fresh => o.writeFile path ""
    | .append => o
  o1.appendFile path (RecordFile.line (RecordFile.header run stamp))

def observer (slot : Nat) (path : String) (run : JsonValue) (start : Start) (stamp : String) :
    Observer τ where
  typeName := "JsonLinesObserver"
  setup := some fun o => { Reaction.done (opened path run start stamp o) with opened := [path] }
  notify r o :=
    -- the file is opened before the line is made, and so it is there in any case
    if (RecordFile.entry r).isWritable then
      .done ((o.appendFile path (RecordFile.line (RecordFile.entry r))).update slot fun t =>
        { t with written := t.written + 1 })
    else .failed (o.appendFile path "") (.slip .tooManyDigits)
  finish := Observer.ignoring

end Minimize.JsonLines
