-- Stores of checkpoints. A store keeps snapshots under keys. What it keeps
-- stands in a cabinet, apart from the rules by which the store handles it,
-- so that two stores with one cabinet see the same checkpoints.
import Minimize.Checkpoint.Key
import Minimize.Solver.Basic

namespace Minimize

/-- What was put away: a snapshot, or something else that can be read. -/
inductive Payload (τ : Type) where
  | pair (s : Snapshot τ)
  | other

/-- What stands under a name in a folder. -/
inductive FileBody (τ : Type) where
  | payload (p : Payload τ)
  | text (s : String)
  | garbage
  | folder

/-- A folder with the number of file operations so far. The plan tells which
operations the disk refuses. -/
structure Folder (τ : Type) where
  isPresent : Bool
  files : Table (FileBody τ)
  operations : Nat
  refuses : Nat → Bool

/-- A save that went well: the store that made it, the key, and the iteration
of the state. -/
structure SaveNote where
  store : String
  key : String
  iteration : Int

/-- What stores have put away, in memory and in a folder, with the notes of
the saves that went well. -/
structure Cabinet (τ : Type) where
  memory : Table (Payload τ)
  folder : Folder τ
  saved : List SaveNote

/-- The rules of a store. Keys are given as values, and each operation
refuses those that it cannot take. -/
structure Store (τ : Type) where
  save : Value → Snapshot τ → Cabinet τ → Cabinet τ × Except Fault Unit
  load : Value → Cabinet τ → Except Fault (Snapshot τ)
  holds : Value → Cabinet τ → Except Fault Bool
  delete : Value → Cabinet τ → Cabinet τ × Except Fault Unit
  keys : Cabinet τ → List String

variable {τ : Type}

/-- A folder with nothing in it, on a disk that refuses nothing. -/
def Folder.empty : Folder τ := ⟨true, .empty, 0, fun _ => false⟩

/-- The folder, if it is there. -/
def Folder.found (d : Folder τ) : Except Slip (Folder τ) :=
  if d.isPresent then .ok d else .error .noFile

def Cabinet.empty : Cabinet τ := ⟨.empty, .empty, []⟩

/-- Names in order. -/
def sortedNames (names : List String) : List String := names.mergeSort fun a b => a ≤ b

/-- The snapshot that a payload under a key is. -/
def Payload.snapshot (key : String) : Payload τ → Except Fault (Snapshot τ)
  | .pair s => .ok s
  | .other => .error (.checkpoint key .notPair)

/-- What goes wrong when a snapshot is written out: faults of the writing
itself are troubles of the checkpoint, all others stay what they are. -/
def serializationFault (key : String) (f : Fault) : Fault :=
  if f.kind = "PicklingError" ∨ f.kind = "TypeError" ∨ f.kind = "AttributeError" then
    .checkpoint key (.unserializable f.message)
  else f

/-- A snapshot in the form in which it is put away. -/
def Snapshot.serialized (key : String) (s : Snapshot τ) : Except Fault (Payload τ) :=
  match s.solver.unserializable with
  | some f => .error (serializationFault key f)
  | none => .ok (.pair s)

/-- The store with a note, under its name, of every save that goes well. -/
def Store.noting (name : String) (s : Store τ) : Store τ :=
  { s with
    save := fun key snapshot c =>
      match s.save key snapshot c with
      | (c', .ok ()) =>
        ({ c' with saved := c'.saved ++ [⟨name, key.plain, snapshot.state.book.iteration⟩] },
          .ok ())
      | r => r }

/-- The store that fails to save at some iterations, or at all if none are
given. -/
def Store.failing (at? : Option (List Int)) (f : Fault) (s : Store τ) : Store τ :=
  { s with
    save := fun key snapshot c =>
      if (at?.map fun is => is.contains snapshot.state.book.iteration).getD true then
        (c, .error f)
      else s.save key snapshot c }

end Minimize
