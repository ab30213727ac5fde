-- Where observers put what they are told. Each observer has an outlet of its
-- own; text files and the list of sightings belong to all of them. What an
-- observer does when it is called is a reaction: the outlets afterwards, the
-- signals that it raised, and whether it failed.
import Minimize.Record

namespace Minimize

/-- A line of a log, with the record that it tells of. -/
structure LogLine where
  level : String
  message : String
  record : Option Record

/-- What one observer has gathered. -/
structure Outlet where
  setups : Nat
  records : List Record
  finished : Bool
  written : Nat
  printed : String
  logged : List LogLine

/-- A note that an observer was called. -/
inductive Sighting where
  | setup (name : String)
  | notified (name : String) (iteration : Value)
  | finished (name : String) (iterations : Int)

structure Outlets where
  files : Table String
  seen : List Sighting
  slots : List Outlet

/-- What a call of an observer comes to. -/
structure Reaction where
  outlets : Outlets
  raised : List String
  /-- Paths of files that the observer tells that it has opened. -/
  opened : List String
  failure : Option Fault

namespace Outlet

def empty : Outlet := ⟨0, [], false, 0, "", []⟩

end Outlet

namespace Outlets

def empty : Outlets := ⟨.empty, [], []⟩

/-- The outlets with one more, and its number. -/
def create (o : Outlets) : Outlets × Nat :=
  ({ o with slots := o.slots ++ [.empty] }, o.slots.length)

/-- The outlets with a change to one of them. -/
def update (o : Outlets) (slot : Nat) (f : Outlet → Outlet) : Outlets :=
  { o with slots := o.slots.modify slot f }

def outlet (o : Outlets) (slot : Nat) : Outlet := o.slots.getD slot .empty

/-- The outlets after one more sighting. -/
def see (o : Outlets) (s : Sighting) : Outlets := { o with seen := o.seen ++ [s] }

/-- The text of a file, which is empty if there is no such file. -/
def textOf (o : Outlets) (path : String) : String := (o.files.get? path).getD ""

def writeFile (o : Outlets) (path text : String) : Outlets :=
  { o with files := o.files.insert path text }

/-- The names that stand right in a folder because of files. -/
def namesIn (o : Outlets) (folder : String) : List String :=
  let parts := folder.splitOn "/"
  (o.files.keys.filterMap fun path =>
    if parts.isPrefixOf (path.splitOn "/") then (path.splitOn "/")[parts.length]?
    else none).eraseDups

def appendFile (o : Outlets) (path text : String) : Outlets :=
  o.writeFile path (o.textOf path ++ text)

end Outlets

namespace Reaction

def done (o : Outlets) : Reaction := ⟨o, [], [], none⟩

def failed (o : Outlets) (f : Fault) : Reaction := ⟨o, [], [], some f⟩

/-- A reaction that needs a value that may not be there. -/
def need {α : Type} (o : Outlets) (r : Except Slip α) (next : α → Reaction) : Reaction :=
  match r with
  | .ok a => next a
  | .error e => failed o (.slip e)

/-- A reaction that puts something out, unless that fails. -/
def attempt (o : Outlets) (r : Except Fault Outlets) : Reaction :=
  match r with
  | .ok o' => done o'
  | .error f => failed o f

end Reaction

end Minimize
