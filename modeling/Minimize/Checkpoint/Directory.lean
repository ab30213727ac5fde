-- A store in a folder. Each key has a payload file, and beside it a file of
-- information for readers. A file is written under a passing name and then
-- moved to its place; the disk may refuse any of these operations.
import Minimize.Checkpoint.Store
import Minimize.Json.Reader
import Minimize.Json.Writer
import Minimize.Text.Lines

namespace Minimize

variable {τ : Type}

namespace Folder

/-- One more operation, and whether the disk allows it. -/
def attempt (d : Folder τ) : Folder τ × Bool :=
  ({ d with operations := d.operations + 1 }, !d.refuses d.operations)

def put (d : Folder τ) (name : String) (b : FileBody τ) : Folder τ :=
  { d with files := d.files.insert name b }

def remove (d : Folder τ) (name : String) : Folder τ := { d with files := d.files.erase name }

def holds (d : Folder τ) (name : String) : Bool := d.isPresent && d.files.contains name

def isFolder (d : Folder τ) (name : String) : Bool :=
  match d.files.get? name with
  | some .folder => true
  | _ => false

/-- The folder taken away with all that stands in it. -/
def removed (d : Folder τ) : Except Slip (Folder τ) := do
  return { ← d.found with isPresent := false, files := .empty }

/-- The folder with a file written into it by hand. -/
def written (d : Folder τ) (name : String) (b : FileBody τ) : Except Slip (Folder τ) := do
  if (← d.found).isFolder name then throw .isFolder
  return d.put name b

/-- The folder with a file spoiled, of which some may have to be left. -/
def spoiled (d : Folder τ) (name : String) (keeps : Bool) : Except Slip (Folder τ) := do
  if keeps && !(← d.found).files.contains name then throw .noFile
  d.written name .garbage

/-- The folder with another folder in it. -/
def nested (d : Folder τ) (name : String) : Except Slip (Folder τ) := do
  if (← d.found).files.contains name then throw .fileExists
  return d.put name .folder

/-- The text of a file, with its lines ended by line feeds. -/
def textOf (d : Folder τ) (name : String) : Except Slip String :=
  match d.files.get? name with
  | some (.text s) => .ok (Text.plainLines s)
  | some .folder => .error .isFolder
  | some _ => .error .badValue
  | none => .error .noFile

/-- The passing name under which a file is written. -/
def passingName (d : Folder τ) (name : String) : String :=
  "." ++ name ++ "." ++ toString d.operations

/-- Takes the passing file away; if the disk refuses that too, it stays. -/
def cleanUp (d : Folder τ) (passing : String) : Folder τ :=
  match d.attempt with
  | (d', true) => d'.remove passing
  | (d', false) => d'

/-- Writes a file under a passing name. -/
def writePassing (d : Folder τ) (passing : String) (b : FileBody τ) : Folder τ × Bool :=
  match d.attempt with
  | (d1, false) => (d1, false)
  | (d1, true) =>
    if !d1.isPresent then (d1, false)
    else
      match (d1.put passing .garbage).attempt with
      | (d2, true) => (d2.put passing b, true)
      | (d2, false) => (d2.cleanUp passing, false)

/-- Writes a file, and tells whether it stands in its place. What was there
before stays if it does not. -/
def writeAtomic (d : Folder τ) (name : String) (b : FileBody τ) : Folder τ × Bool :=
  let passing := d.passingName name
  match d.writePassing passing b with
  | (d1, false) => (d1, false)
  | (d1, true) =>
    match d1.attempt with
    | (d2, true) =>
      if d2.isFolder name then (d2.cleanUp passing, false)
      else ((d2.remove passing).put name b, true)
    | (d2, false) => (d2.cleanUp passing, false)

/-- Takes a file away if it is there. -/
def unlink (d : Folder τ) (name : String) : Folder τ × Except Fault Unit :=
  if !d.holds name then (d, .ok ())
  else
    match d.attempt with
    | (d1, false) => (d1, .error (.slip .ioRefused))
    | (d1, true) =>
      if d1.isFolder name then (d1, .error (.slip .isFolder)) else (d1.remove name, .ok ())

end Folder

namespace Checkpoint.Directory

/-- What a file of information says about a checkpoint. -/
structure Info where
  key : JsonValue
  iteration : JsonValue
  bestCost : JsonValue
  solver : JsonValue
  stateType : JsonValue
  savedAt : JsonValue

namespace Info

/-- The members of the information, in order. -/
def named (i : Info) : List (String × JsonValue) :=
  [("key", i.key), ("iteration", i.iteration), ("best_cost", i.bestCost), ("solver", i.solver),
    ("state_type", i.stateType), ("saved_at", i.savedAt)]

def names : List String :=
  ["key", "iteration", "best_cost", "solver", "state_type", "saved_at"]

def text (i : Info) : String := String.ofList (JsonValue.linesChars i.named)

/-- Whether the text of the information can be written. -/
def isWritable (i : Info) : Bool := i.named.all fun m => m.2.isWritable

/-- The information about a snapshot. A best cost that is no number is a
slip. -/
def describe (key : Value) (s : Snapshot τ) (stamp : String) : Except Slip Info := do
  let cost ← s.state.book.bestCost.toFloat
  return ⟨.text key.plain, .int s.state.book.iteration, .float cost, .text s.solver.displayName,
    .text s.state.typeName, .text stamp⟩

def member (ms : List (String × JsonValue)) (name : String) : Except Fault JsonValue :=
  match ms.find? (fun m => m.1 = name) with
  | some m => .ok m.2
  | none => .error (.slip .wrongType)

/-- The information that a JSON value is: an object with just its members. -/
def ofJson : JsonValue → Except Fault Info
  | .object ms => do
    if ms.any fun m => !names.contains m.1 then throw (.slip .wrongType)
    return ⟨← member ms "key", ← member ms "iteration", ← member ms "best_cost",
      ← member ms "solver", ← member ms "state_type", ← member ms "saved_at"⟩
  | _ => .error (.slip .wrongType)

def ofText (s : String) : Except Fault Info := do
  ofJson (← (JsonValue.ofChars s.toList).mapError .slip)

end Info

def payloadName (key : String) : String := key ++ ".ckpt"

def infoName (key : String) : String := key ++ ".json"

/-- The cabinet with another folder in it. -/
def withFolder (c : Cabinet τ) (d : Folder τ) : Cabinet τ := { c with folder := d }

/-- Writes the payload, then the information. That is put into words only
when the payload stands in its place, and may have none. -/
def writeBoth (base key : String) (p : Payload τ) (i : Info) (d : Folder τ) :
    Folder τ × Except Fault Unit :=
  let refused : Except Fault Unit := .error (.checkpoint key (.unwritable base))
  match d.writeAtomic (payloadName key) (.payload p) with
  | (d1, false) => (d1, refused)
  | (d1, true) =>
    if !i.isWritable then (d1, .error (.slip .tooManyDigits))
    else
      match d1.writeAtomic (infoName key) (.text i.text) with
      | (d2, false) => (d2, refused)
      | (d2, true) => (d2, .ok ())

/-- Saves a snapshot: it is written out, described, and then put in place
under its key. -/
def save (base stamp : String) (key : Value) (s : Snapshot τ) (c : Cabinet τ) :
    Cabinet τ × Except Fault Unit :=
  let prepared : Except Fault (String × Payload τ × Info) := do
    let p ← s.serialized key.plain
    let i ← (Info.describe key s stamp).mapError .slip
    return (← validateKey key, p, i)
  match prepared with
  | .error f => (c, .error f)
  | .ok (k, p, i) =>
    let (d, r) := writeBoth base k p i c.folder
    (withFolder c d, r)

/-- The snapshot in a payload file. -/
def readPayload (path key : String) : FileBody τ → Except Fault (Snapshot τ)
  | .payload p => p.snapshot key
  | _ => .error (.checkpoint key (.unreadable path))

def load (base : String) (key : Value) (c : Cabinet τ) : Except Fault (Snapshot τ) := do
  let k ← validateKey key
  let path := base ++ "/" ++ payloadName k
  match if c.folder.isPresent then c.folder.files.get? (payloadName k) else none with
  | some b => readPayload path k b
  | none => throw (.checkpoint k (.absent path))

def holds (key : Value) (c : Cabinet τ) : Except Fault Bool := do
  return c.folder.holds (payloadName (← validateKey key))

def delete (key : Value) (c : Cabinet τ) : Cabinet τ × Except Fault Unit :=
  match validateKey key with
  | .error f => (c, .error f)
  | .ok k =>
    match c.folder.unlink (payloadName k) with
    | (d, .error f) => (withFolder c d, .error f)
    | (d, .ok ()) =>
      let (d', r) := d.unlink (infoName k)
      (withFolder c d', r)

/-- The key whose payload file has a name. A name with nothing before its
ending is taken as a whole. -/
def keyOfName? (name : String) : Option String :=
  if name = ".ckpt" then some name
  else if name.endsWith ".ckpt" then some (String.ofList (name.toList.take (name.length - 5)))
  else none

/-- The information about a key, if there is any. -/
def info (key : Value) (c : Cabinet τ) : Except Fault (Option Info) := do
  let k ← validateKey key
  match if c.folder.isPresent then c.folder.files.get? (infoName k) else none with
  | none => return none
  | some (.text s) => return some (← Info.ofText s)
  | some .folder => throw (.slip .isFolder)
  | some _ => throw (.slip .malformedText)

/-- The store in the folder `base`. -/
def store (base stamp : String) : Store τ where
  save := save base stamp
  load := load base
  holds := holds
  delete := delete
  keys c := sortedNames (c.folder.files.keys.filterMap keyOfName?)

end Checkpoint.Directory

end Minimize
