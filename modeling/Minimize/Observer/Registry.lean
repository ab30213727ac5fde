-- The observers of a run under their names, each with its mode. They are
-- called in the order in which they were registered. One that fails does not
-- keep the others from being called; its failure is handed back.
import Minimize.Given
import Minimize.Observer.Basic
import Minimize.World

namespace Minimize

/-- An observer with its mode. -/
structure Registered (τ : Type) where
  observer : Observer τ
  mode : Mode

abbrev Registry (τ : Type) := Table (Registered τ)

variable {τ : Type}

namespace World

/-- Calls a hook, and hands back its failure. -/
def call (w : World τ) (hook : Outlets → Reaction) : World τ × Option Fault :=
  let r := hook w.outlets
  (w.after r, r.failure)

end World

namespace Registry

/-- Sets an observer up, if it has to be. -/
def setUp (o : Observer τ) (w : World τ) : World τ × Option Fault :=
  match o.setup with
  | some hook => w.call hook
  | none => (w, none)

/-- What is told of an observer that was registered. A mode without a name
cannot be told of. -/
def announced (name : String) (mode : Mode) (w : World τ) : World τ × Except Fault Unit :=
  match mode.message with
  | .ok _ => (w.note (.registered name mode), .ok ())
  | .error e => (w, .error (.slip e))

/-- The registry with one more observer. A name stands once, and an observer
whose setup fails is not registered. It is registered before it is told of, and
stays so if it cannot be told of. -/
def add (r : Registry τ) (name : String) (given : Given (Observer τ)) (mode : Mode)
    (w : World τ) : Registry τ × World τ × Except Fault Unit :=
  if r.contains name then (r, w, .error (.configuration (.duplicateObserver name)))
  else
    match given with
    | .other v => (r, w, .error (.argument (.notObserver v.typeText)))
    | .proper o =>
      match setUp o w with
      | (w', some f) => (r, w', .error (.observer name .setup f))
      | (w', none) => (r.insert name ⟨o, mode⟩, announced name mode w')

def remove (r : Registry τ) (name : String) : Registry τ := r.erase name

/-- Tells an observer of an iteration. -/
def tell (record : Record) (iteration : Int) (name : String) (o : Observer τ)
    (acc : World τ × List Fault) : World τ × List Fault :=
  match (acc.1.note (.notified name iteration record)).call (o.notify record) with
  | (w, none) => (w, acc.2)
  | (w, some f) =>
    let trouble := Fault.observer name (.notify iteration) f
    (w.note (.notifyFailed trouble), acc.2 ++ [trouble])

/-- Tells the observers whose modes fire, in order; hands back the failures. -/
def dispatch (r : Registry τ) (record : Record) (iteration : Int) (improved : Bool)
    (w : World τ) : World τ × List Fault :=
  r.entries.foldl (fun acc e =>
    if e.2.mode.fires iteration improved then tell record iteration e.1 e.2.observer acc
    else acc) (w, [])

/-- Tells an observer of the end, if it wants to hear of it. -/
def tellEnd (outcome : Outcome τ) (name : String) (o : Observer τ)
    (acc : World τ × List Fault) : World τ × List Fault :=
  match o.finish with
  | none => acc
  | some hook =>
    match (acc.1.note (.finishing name)).call (hook outcome) with
    | (w, none) => (w, acc.2)
    | (w, some f) =>
      let trouble := Fault.observer name .finish f
      (w.note (.finishFailed trouble), acc.2 ++ [trouble])

/-- Tells all observers of the end, in order; hands back the failures. -/
def finish (r : Registry τ) (outcome : Outcome τ) (w : World τ) : World τ × List Fault :=
  r.entries.foldl (fun acc e => tellEnd outcome e.1 e.2.observer acc) (w, [])

end Registry

end Minimize
