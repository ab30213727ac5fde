-- Solvers that play a script. Each call plays a list of actions on the state
-- that it is given, in place until an action goes on with a copy or with
-- another state; a copy shares its values and its population with the state
-- that it was made of until one of the two gets its own.
import Minimize.Sample.Solver

namespace Minimize.Sample

variable {τ : Type}

/-- In what form a call hands its state and its record back. -/
inductive Form where
  | pair
  | state
  | nothing
  | dict
  | list
  | single
  | triple
  | swapped
  | badRecord
  | badState
  deriving DecidableEq, Repr

/-- The forms by name. -/
def Form.named : List (String × Form) :=
  [("pair", .pair), ("state", .state), ("none", .nothing), ("dict", .dict), ("list", .list),
    ("single", .single), ("triple", .triple), ("swapped", .swapped), ("badkv", .badRecord),
    ("badstate", .badState)]

/-- An action of a script. -/
inductive Action (τ : Type) where
  | set (change : State τ → State τ)
  | edit (op : Operation) (v : Value)
  | evaluate (c : Capability) (field : String) (put : Value → State τ → State τ)
  | anneal (temperature : Value) (field : String) (put : Value → State τ → State τ)
  | tell (key : String) (v : Value)
  | wait (d : τ)
  | raise (signal : String)
  | terminate (r : Reason)
  | sort
  | take
  | copy
  | replace (s : State τ)
  | fail (f : Fault)
  | answer (form : Form)

/-- The type of what a form hands back, if that is no state. -/
def Form.misfit? : Form → Option String
  | .pair => none
  | .state => none
  | .nothing => some "NoneType"
  | .dict => some "dict"
  | .list => some "list"
  | _ => some "tuple"

/-- A play in progress: the state that was given, the state that it goes on
with, and whether the two are the same. -/
structure Play (τ : Type) where
  given : State τ
  current : State τ
  isGiven : Bool
  record : Option Record
  form : Form

namespace Play

def begin (s : State τ) : Play τ := ⟨s, s, true, none, .pair⟩

/-- The given state as it stands. -/
def left (p : Play τ) : State τ := if p.isGiven then p.current else p.given

/-- The play with the current state changed. -/
def on (p : Play τ) (s : State τ) : Play τ := { p with current := s }

/-- The play with an answer of the problem for a field of the current state;
the field then holds it in common with the point that was asked about, or with
the problem. -/
def receive (p : Play τ) (c : Capability) (field : String) (put : Value → State τ → State τ)
    (origin : Origin) (v : Value) : Play τ :=
  let s := put v p.current
  p.on <| match origin with
    | .fresh => s
    | .argument =>
      let (sharing, m) := p.current.sharing.marked "param"
      { s with sharing := sharing.hold field m }
    | .constant => { s with sharing := s.sharing.hold field (.constant c) }

/-- Goes on after a change in place, which others may have to follow. -/
def changing (p : Play τ) (s : State τ) (c? : Option Change) (done : Except Slip Unit)
    (next : Play τ → Call τ) : Call τ :=
  match c? with
  | none => .need (p.on s).left done fun _ => next (p.on s)
  | some c =>
    let q := { p.on s with given := p.given.after c }
    .change c (.need q.left done fun _ => next q)

/-- The play on a copy of the current state. -/
def copy (p : Play τ) : Play τ :=
  let s := p.current.copied
  { p with given := if p.isGiven then s else p.given, current := s, isGiven := false }

/-- The play on a state that has nothing in common with the current one. -/
def replace (p : Play τ) (s : State τ) : Play τ :=
  { p with
    given := p.left
    current := s.renumbered p.current.sharing.next
    isGiven := false }

/-- The end of the play. -/
def finish (p : Play τ) : Call τ :=
  match p.form.misfit? with
  | some typeName => .done p.left (.malformed typeName)
  | none =>
    let record := if p.form = .state then none else p.record
    .done p.left (if p.isGiven then .same record else .other p.current record)

end Play

/-- Plays a list of actions. -/
def play : List (Action τ) → Play τ → Call τ
  | [], p => p.finish
  | a :: rest, p =>
    match a with
    | .set change => play rest (p.on (change p.current))
    | .edit op v =>
      let (w, changed) := p.current.param.change op v
      p.changing (p.current.changedParam w) (p.current.paramChange? w) changed (play rest)
    | .evaluate c field put =>
      .askWhence p.left c [p.current.param] fun origin v =>
        play rest (p.receive c field put origin v)
    | .anneal t field put =>
      .askWhence p.left .anneal [p.current.param, t] fun origin v =>
        play rest (p.receive .anneal field put origin v)
    | .tell key v =>
      .tell p.left (Record.set (p.record.getD Table.empty) key v) fun r =>
        play rest { p with record := some r }
    | .wait d => .wait d (play rest p)
    | .raise signal => .raise signal (play rest p)
    | .terminate r =>
      match p.current.terminateWith r with
      | .ok s => play rest (p.on s)
      | .error f => .fail p.left f
    | .sort =>
      let (s, sorted) := p.current.sortPopulation
      p.changing s s.membersChange? sorted (play rest)
    | .take => .need p.left p.current.takeBestIndividual fun (s, _) => play rest (p.on s)
    | .copy => play rest p.copy
    | .replace s => play rest (p.replace s)
    | .fail f => .fail p.left f
    | .answer form => play rest { p with form := form }

/-- What a scripted solver does. -/
structure Script (τ : Type) where
  name? : Option String
  newState : ShapeKind
  opening : Option (List (Action τ))
  steps : List (List (Action τ))
  ends : List (Int × Option Reason)
  unserializable : Option Fault

/-- The early end that a script has for an iteration. -/
def Script.endAt (s : Script τ) (iteration : Int) : Option Reason :=
  match s.ends.find? (fun e => e.1 = iteration) with
  | some e => e.2
  | none => none

/-- The solver that plays a script: the step from an iteration plays the list
of that number, or the last. -/
def scripted (s : Script τ) : Solver τ where
  typeName := "ScriptSolver"
  name? := s.name?
  newState := s.newState
  opening st := match s.opening with
    | some actions => play actions (.begin st)
    | none => .ok st none
  step st :=
    let i := min st.book.iteration (s.steps.length - 1)
    let j := if i < 0 then i + s.steps.length else i
    match if j < 0 then none else s.steps[j.toNat]? with
    | some actions => play actions (.begin st)
    | none => .fail st (.slip .badIndex)
  terminateEarly st := .ok (s.endAt st.book.iteration)
  unserializable := s.unserializable

end Minimize.Sample
