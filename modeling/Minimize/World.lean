-- The world that runs share: a clock, the signals and whether they are
-- raised, the cabinets of the stores, the outlets of the observers, and a
-- journal of what happened. A call of a solver runs in it, on a problem.
import Minimize.Catalog
import Minimize.Checkpoint.Store
import Minimize.Observer.Mode
import Minimize.Observer.Outlet
import Minimize.State.Summary

namespace Minimize

/-- What happens in runs. -/
inductive Event (τ : Type) where
  | started (name : String)
  | called (kind : CallKind) (iteration : Int)
  | evaluated (c : Capability)
  | completed (s : State τ)
  | attempted (key : String) (iteration : Int)
  | saved (key : String) (iteration : Int)
  | saveFailed (f : Fault)
  | resumed (key : String) (iteration : Int)
  | ignoredCounter (name : String)
  | reopened (iteration : Int)
  | registered (name : String) (mode : Mode)
  | opened (path : String)
  | notified (name : String) (iteration : Int) (record : Record)
  | notifyFailed (f : Fault)
  | finishing (name : String)
  | finishFailed (f : Fault)
  | failed (name : String) (iteration : Int) (f : Fault)
  | ended (name : String) (iteration : Int) (reason : String) (best : Value)
  | pooled (executors : Nat) (workers : Int)

structure World (τ : Type) where
  clock : τ
  signals : Catalog Bool
  cabinets : Table (Cabinet τ)
  outlets : Outlets
  /-- What happened, the latest first. -/
  journal : List (Event τ)

namespace World

variable {τ : Type}

/-- Nothing has happened, and it is `now`. -/
def start (now : τ) : World τ := ⟨now, .empty, .empty, .empty, []⟩

/-- What happened, in the order in which it did. -/
def history (w : World τ) : List (Event τ) := w.journal.reverse

def note (w : World τ) (e : Event τ) : World τ := { w with journal := e :: w.journal }

/-- Whether the signal of a number is raised. -/
def isRaised (w : World τ) (signal : Nat) : Bool := w.signals.get? signal = some true

/-- A new signal under a name, which is not raised. -/
def addSignal (w : World τ) (name : String) : World τ :=
  { w with signals := w.signals.add name false }

/-- Raises the signal that a name stands for. -/
def raise (w : World τ) (name : String) : World τ :=
  { w with signals := w.signals.replace name true }

def lower (w : World τ) (name : String) : World τ :=
  { w with signals := w.signals.replace name false }

def wait [Clock τ] (w : World τ) (d : τ) : World τ := { w with clock := Clock.add w.clock d }

def cabinet (w : World τ) (name : String) : Cabinet τ := (w.cabinets.get? name).getD .empty

def putCabinet (w : World τ) (name : String) (c : Cabinet τ) : World τ :=
  { w with cabinets := w.cabinets.insert name c }

/-- The world after what an observer did. -/
def after (w : World τ) (r : Reaction) : World τ :=
  let w1 := { w with outlets := r.outlets }
  let w2 := r.raised.foldl raise w1
  r.opened.foldl (fun w p => w.note (.opened p)) w2

end World

/-- What a call of a solver came to. -/
structure Called (τ : Type) where
  problem : Problem
  world : World τ
  left : State τ
  answer : Answer τ
  /-- What it changed in place, in order. -/
  changes : List Change

/-- Runs a call on a problem. Evaluations that reach the user's function are
noted. -/
def Call.run {τ : Type} [Clock τ] : Call τ → Problem → World τ → Called τ
  | .done left answer, p, w => ⟨p, w, left, answer, []⟩
  | .evaluate c args next, p, w =>
    let (p', r) := p.evaluate c args
    (next (p.origin c) r).run p' (if p.supports c then w.note (.evaluated c) else w)
  | .change c next, p, w =>
    let called := next.run (p.after c) w
    { called with changes := c :: called.changes }
  | .wait d next, p, w => next.run p (w.wait d)
  | .raise signal next, p, w => next.run p (w.raise signal)

end Minimize
