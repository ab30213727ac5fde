-- The checkpoint policy of a run: where to save and under which key, how
-- often, whether a save that fails ends the run, and whether a run goes on
-- from what is stored. An iteration is saved at the end unless it has been
-- tried already.
import Minimize.Checkpoint.Frequency
import Minimize.Checkpoint.Store
import Minimize.Given

namespace Minimize

structure Policy (τ : Type) where
  /-- The name of the cabinet that the store works on. -/
  cabinet : String
  store : Store τ
  key : String
  frequency : Frequency
  fatal : Bool
  resume : Bool
  lastAttempted : Option Int

/-- What an attempt to save came to. -/
inductive SaveResult where
  | notDue
  | saved
  | failed (f : Fault)

namespace Policy

variable {τ : Type}

/-- A policy for a store and a key. -/
def create (cabinet : String) (store : Given (Store τ)) (key : Value) (frequency : Frequency)
    (fatal resume : Bool) : Except Fault (Policy τ) :=
  match store with
  | .other v => .error (.configuration (.notStore v.typeName))
  | .proper s => do
    return ⟨cabinet, s, ← Checkpoint.validateKey key, frequency, fatal, resume, none⟩

/-- Whether a save is called for. -/
def isDue (p : Policy τ) (iteration : Int) (final : Bool) : Bool :=
  if final then p.lastAttempted != some iteration else p.frequency.due iteration

/-- A failed save as a fault of the checkpoint. -/
def saveFault (p : Policy τ) (iteration : Int) (f : Fault) : Fault :=
  if f.isCheckpoint then f else .checkpointSave p.key iteration f

/-- Saves if a save is due. -/
def maybeSave (p : Policy τ) (s : Snapshot τ) (final : Bool) (c : Cabinet τ) :
    Policy τ × Cabinet τ × SaveResult :=
  let i := s.state.book.iteration
  if p.isDue i final then
    let p' := { p with lastAttempted := some i }
    match p.store.save (.text p.key) s c with
    | (c', .ok ()) => (p', c', .saved)
    | (c', .error f) => (p', c', .failed (p.saveFault i f))
  else (p, c, .notDue)

/-- The snapshot to go on from, if there is one. -/
def load (p : Policy τ) (c : Cabinet τ) : Except Fault (Option (Snapshot τ)) := do
  if !p.resume then return none
  if !(← p.store.holds (.text p.key) c) then return none
  return some (← p.store.load (.text p.key) c)

/-- The policy after a load: the iteration of the snapshot counts as
tried. -/
def loaded (p : Policy τ) (s : Option (Snapshot τ)) : Policy τ :=
  match s with
  | some t => { p with lastAttempted := some t.state.book.iteration }
  | none => p

end Policy

end Minimize
