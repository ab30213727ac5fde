-- Observers for trying things out: one that notes every call, may edit its
-- record, raise a signal and fail on demand, and two that do less.
import Minimize.Observer.Basic

namespace Minimize.Sample

variable {τ : Type}

/-- What a scripted observer does. -/
structure ObserverScript where
  failSetup : Option Fault
  edit : List (String × Value)
  abort : Option (String × Int)
  fail : Option Fault
  /-- The iterations at which it fails; everywhere if they are not given. -/
  failAt : Option (List Int)
  failFinish : Option Fault

def iterationOf (r : Record) : Value :=
  match r.get? "iter" with
  | some s => s.toValue
  | none => .null

/-- The edits made to a record of its own, and what stopped them. -/
def edited (es : List (String × Value)) (r : Record) : Except Fault Record :=
  es.foldlM (fun r e => r.set e.1 e.2) r

def reactionOf (o : Outlets) (f : Option Fault) : Reaction := ⟨o, [], [], f⟩

/-- The signal that is raised for a record: from an iteration on, which the
record has to tell. -/
def signalFor (s : ObserverScript) (r : Record) : Except Fault (List String) :=
  match s.abort with
  | none => .ok []
  | some (signal, n) =>
    match r.get? "iter" with
    | none => .error (.raised "KeyError" [.ofText "iter"])
    | some i => (((Value.int n).atMost i.toValue).mapError .slip).map fun due =>
        if due then [signal] else []

def failsAt (s : ObserverScript) (iteration : Value) : Bool :=
  match s.failAt with
  | none => true
  | some is => is.any fun i => iteration.same (.int i)

def scriptedObserver (name : String) (s : ObserverScript) : Observer τ where
  typeName := "Scripted"
  setup := some fun o => reactionOf (o.see (.setup name)) s.failSetup
  notify r o :=
    let i := iterationOf r
    let o1 := o.see (.notified name i)
    match edited s.edit r >>= signalFor s with
    | .error f => .failed o1 f
    | .ok signals => ⟨o1, signals, [], if failsAt s i then s.fail else none⟩
  finish := some fun outcome o =>
    reactionOf (o.see (.finished name outcome.iterations)) s.failFinish

/-- An observer without hooks. -/
def notifyOnly (name : String) : Observer τ where
  typeName := "NotifyOnly"
  setup := none
  notify r o := .done (o.see (.notified name (iterationOf r)))
  finish := none

/-- An observer that cannot take a record. -/
def bareObserver : Observer τ where
  typeName := "Observer"
  setup := Observer.idle
  notify _ o := .failed o .notImplemented
  finish := Observer.ignoring

end Minimize.Sample
