-- A notebook: records under names, whose entries know when they came in. By
-- that two records can be told to have one and the same entry, as a copy has
-- it, and not only equal ones. A float that is no number is equal to nothing
-- but its own copies.
import Minimize.Record

namespace Minimize

/-- A record whose entries have the number of the change that brought them. -/
abbrev Note := Table (Nat × Scalar)

structure Notebook where
  notes : Table Note
  changes : Nat

namespace Note

def record (n : Note) : Record := n.map (·.2)

/-- One and the same entry, or equal entries. -/
def sameEntry (e f : String × Nat × Scalar) : Bool :=
  e.1 == f.1 && (e.2.1 == f.2.1 || e.2.2.same f.2.2)

/-- Whether two records have the same entries in the same order. -/
def same (n m : Note) : Bool :=
  n.entries.length == m.entries.length && (n.entries.zip m.entries).all fun (e, f) => sameEntry e f

end Note

namespace Notebook

def empty : Notebook := ⟨.empty, 0⟩

/-- The notebook with a new record under a name. -/
def enter (b : Notebook) (name : String) (r : Record) : Notebook :=
  ⟨b.notes.insert name (r.map fun s => (b.changes, s)), b.changes + 1⟩

def note (b : Notebook) (name : String) : Except Slip Note :=
  match b.notes.get? name with
  | some n => .ok n
  | none => .error .missingKey

def record (b : Notebook) (name : String) : Except Slip Record := (b.note name).map Note.record

/-- The notebook with an entry of a record set. -/
def change (b : Notebook) (name : String) (key value : Value) : Except Fault Notebook := do
  let n ← (b.note name).mapError .slip
  let (k, s) ← Record.entryOf key value
  return ⟨b.notes.insert name (n.insert k (b.changes, s)), b.changes + 1⟩

/-- The notebook with a copy of a record under another name, over which the
entries of a second record are laid. -/
def lay (b : Notebook) (name : String) (above? : Option String) (target : String) :
    Except Slip Notebook := do
  let below ← b.note name
  let above ← above?.mapM b.note
  return { b with notes := b.notes.insert target (below.merge (above.getD .empty)) }

/-- Whether the records of two names are the same. -/
def same (b : Notebook) (name other : String) : Except Slip Bool := do
  return (← b.note name).same (← b.note other)

end Notebook

end Minimize
