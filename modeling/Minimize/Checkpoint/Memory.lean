-- A store in memory. Keys are checked when a snapshot is saved; to look one
-- up, any value that can be a key at all will do.
import Minimize.Checkpoint.Store

namespace Minimize.Checkpoint.Memory

variable {τ : Type}

/-- The payload under a value, if there is one. A value that cannot be a key
is a slip. -/
def find (key : Value) (c : Cabinet τ) : Except Fault (Option (Payload τ)) :=
  if key.isKey then .ok (key.text?.bind c.memory.get?)
  else .error (.slip .wrongType)

def put (key : String) (p : Payload τ) (c : Cabinet τ) : Cabinet τ :=
  { c with memory := c.memory.insert key p }

def save (key : Value) (s : Snapshot τ) (c : Cabinet τ) : Cabinet τ × Except Fault Unit :=
  match (do let k ← validateKey key; return (k, ← s.serialized k)) with
  | .ok (k, p) => (put k p c, .ok ())
  | .error f => (c, .error f)

def load (key : Value) (c : Cabinet τ) : Except Fault (Snapshot τ) := do
  match ← find key c with
  | some p => p.snapshot key.plain
  | none => throw (.checkpoint key.plain .notStored)

def holds (key : Value) (c : Cabinet τ) : Except Fault Bool := (find key c).map Option.isSome

/-- The cabinet without what it has under a value. -/
def without (key : Value) (c : Cabinet τ) : Cabinet τ :=
  match key.text? with
  | some k => { c with memory := c.memory.erase k }
  | none => c

def delete (key : Value) (c : Cabinet τ) : Cabinet τ × Except Fault Unit :=
  match find key c with
  | .ok _ => (without key c, .ok ())
  | .error f => (c, .error f)

def store : Store τ where
  save := save
  load := load
  holds := holds
  delete := delete
  keys c := sortedNames c.memory.keys

end Minimize.Checkpoint.Memory
