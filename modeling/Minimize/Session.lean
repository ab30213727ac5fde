-- A session: several executors in one world, with the problems and states
-- that they share under names. An executor that was given a shared state
-- works on that very state until its run goes on to another one, and so does
-- the outcome of its run. A name can be given to another thing later on; what
-- has been given out before stays with those who have it.
import Minimize.Catalog
import Minimize.Executor.Run

namespace Minimize

/-- An executor with the numbers of what it shares. -/
structure Post (τ : Type) where
  executor : Executor τ
  problem? : Option Nat
  state? : Option Nat

/-- An outcome with the number of the shared state that it tells of, if its
run ended on one. -/
structure Report (τ : Type) where
  outcome : Outcome τ
  state? : Option Nat

/-- A thing of one's own, or the one that the session has under a name. -/
inductive Source (α : Type) where
  | own (a : α)
  | shared (name : String)

/-- A store with the name of the cabinet that it works on, the folder of that
cabinet if the store uses it, and the name under which its saves are noted. -/
structure Shelf (τ : Type) where
  cabinet : String
  folder? : Option String
  note : String
  store : Given (Store τ)

structure Session (τ : Type) where
  world : World τ
  problems : Catalog Problem
  states : Catalog (State τ)
  shelves : Catalog (Shelf τ)
  posts : Table (Post τ)
  reports : Table (Report τ)

/-- What two executors must not have in common. -/
inductive Instance where
  | shared (number : Nat)
  | own (executor : String)
  deriving DecidableEq

variable {τ : Type}

/-- What a name stands for, or the slip of a missing one. -/
def known {α : Type} : Option α → Except Fault α
  | some a => .ok a
  | none => .error (.slip .missingKey)

def Table.need {α : Type} (t : Table α) (key : String) : Except Fault α := known (t.get? key)

namespace Source

variable {α : Type}

/-- The thing itself, with its number if it is shared; then it is made of
what stands in a catalogue now. -/
def find {β : Type} (c : Catalog β) (make : β → α) : Source α → Except Fault (α × Option Nat)
  | .own a => .ok (a, none)
  | .shared n => do return (make (← known (c.find? n)), c.number? n)

end Source

namespace Post

/-- Whether the executor still works on the state that it was given. -/
def isAttached (p : Post τ) : Bool := p.executor.handed.isNone

/-- The problem that the executor works on, as an instance. -/
def problemInstance (name : String) (p : Post τ) : Instance :=
  match p.problem? with
  | some n => .shared n
  | none => .own name

/-- The number of the shared state that the executor works on. -/
def live? (p : Post τ) : Option Nat := if p.isAttached then p.state? else none

/-- The state that the executor works on, as an instance. -/
def stateInstance (name : String) (p : Post τ) : Instance :=
  match p.live? with
  | some n => .shared n
  | none => .own name

end Post

namespace Session

def start (now : τ) : Session τ :=
  ⟨.start now, .empty, .empty, .empty, .empty, .empty⟩

/-- The problem that a post works on. -/
def problemOf (s : Session τ) (p : Post τ) : Problem :=
  (p.problem?.bind s.problems.get?).getD p.executor.problem

/-- The state that a post works on. -/
def stateOf (s : Session τ) (p : Post τ) : State τ :=
  (p.live?.bind s.states.get?).getD p.executor.state

/-- An executor with what it shares as it stands now. -/
def engine (s : Session τ) (name : String) : Except Fault (Post τ × Engine τ) := do
  let p ← s.posts.need name
  let e := { p.executor with problem := s.problemOf p, state := s.stateOf p }
  return (p, ⟨e, s.world⟩)

/-- The session after something was done with an executor. -/
def put (s : Session τ) (name : String) (p : Post τ) (g : Engine τ) : Session τ :=
  { s with
    world := g.world
    posts := s.posts.insert name { p with executor := g.executor }
    problems := match p.problem? with
      | some n => s.problems.set n g.executor.problem
      | none => s.problems
    states := match p.live? with
      | some n => s.states.set n (g.executor.handed.getD g.executor.state)
      | none => s.states }

/-- The session after a change to an executor by name. -/
def revise (s : Session τ) (name : String) (f : Executor τ → Except Fault (Executor τ)) :
    Except Fault (Session τ) := do
  let (p, g) ← s.engine name
  return s.put name p { g with executor := ← f g.executor }

/-- Adds an observer to an executor by name. What its setup did to the world
stays, whether or not it is registered. -/
def observe (s : Session τ) (name observer : String) (given : Given (Observer τ)) (mode : Mode) :
    Session τ × Except Fault Unit :=
  match s.engine name with
  | .error f => (s, .error f)
  | .ok (p, g) =>
    let (g', r) := g.observe observer given mode
    (s.put name p g', r)

/-- Puts a store up. In a folder it works on the cabinet of that folder, which
keeps what it has, and the folder is made if there is none; otherwise it gets
a cabinet of its own. -/
def addStore (s : Session τ) (name : String) (folder? : Option String)
    (store : String → Given (Store τ)) : Session τ :=
  let note := toString s.shelves.things.length
  let cabinet := folder?.getD note
  let c := s.world.cabinet cabinet
  { s with
    world := s.world.putCabinet cabinet { c with folder := { c.folder with isPresent := true } }
    shelves := s.shelves.add name ⟨cabinet, folder?, note, store note⟩ }

/-- The store that a name stands for. -/
def shelf (s : Session τ) (name : String) : Except Fault (Shelf τ) := known (s.shelves.find? name)

/-- The names in the folder of a store, those of other files included. -/
def fileNames (s : Session τ) (shelf : Shelf τ) : Except Slip (List String) :=
  match shelf.folder? with
  | none => .error .missingAttribute
  | some folder => do
    let d ← (s.world.cabinet shelf.cabinet).folder.found
    return sortedNames (d.files.keys ++ s.world.outlets.namesIn folder)

variable [Clock τ]

/-- Creates an executor under a name. -/
def create (s : Session τ) (name : String) (problem : Source Problem) (solver : Given (Solver τ))
    (state : Option (Source (Given (State τ)))) (settings : Settings) :
    Except Fault (Session τ) := do
  let (p, problem?) ← problem.find s.problems id
  let start ← state.mapM (Source.find s.states .proper)
  let e ← Executor.create p solver (start.map (·.1)) settings
  return { s with posts := s.posts.insert name ⟨e, problem?, start.bind (·.2)⟩ }

/-- Runs an executor by name. What the run did stays, whether or not its
outcome is handed back. -/
def run (s : Session τ) (limit : Nat) (name : String) :
    Session τ × Except Fault (Option (Outcome τ)) :=
  match s.engine name with
  | .error f => (s, .error f)
  | .ok (p, g) =>
    match g.run limit with
    | .error f => (s, .error f)
    | .ok none => (s, .ok none)
    | .ok (some (g', o)) => (s.put name p g', o.handedBack.map some)

omit [Clock τ] in
/-- Keeps the outcome of an executor. -/
def keep (s : Session τ) (name : String) (o : Outcome τ) : Session τ :=
  { s with reports := s.reports.insert name ⟨o, (s.posts.get? name).bind Post.live?⟩ }

omit [Clock τ] in
/-- The outcome of an executor, with the state as it stands now. -/
def outcomeOf (s : Session τ) (name : String) : Except Fault (Outcome τ) := do
  let r ← s.reports.need name
  return { r.outcome with state := (r.state?.bind s.states.get?).getD r.outcome.state }

/-! ## Several executors -/

omit [Clock τ] in
/-- The first thing that two of the executors have in common. -/
def sharing? (ps : List (String × Post τ)) : Option String :=
  if ¬ (ps.map fun p => p.2.problemInstance p.1).Nodup then some "problem"
  else if ¬ (ps.map fun p => p.2.stateInstance p.1).Nodup then some "state"
  else none

/-- Runs executors one after the other, each whether or not the others
failed. -/
def runEach (limit : Nat) (s : Session τ) :
    List String → Session τ × List (Except Fault (Option (Outcome τ)))
  | [] => (s, [])
  | name :: names =>
    let (s1, r) := s.run limit name
    let (s2, rs) := runEach limit s1 names
    (s2, r :: rs)

/-- The number of workers: one for each executor if it is not given or
zero. -/
def workerCount (executors : Nat) (workers : Option Int) : Int :=
  match workers with
  | none => executors
  | some n => if n = 0 then executors else n

/-- Runs executors that have nothing in common, and hands back their outcomes
in order. Fewer workers than none are refused once the plan is told. -/
def runTogether (s : Session τ) (limit : Nat) (names : List String) (workers : Option Int) :
    Session τ × Except Fault (List (Outcome τ)) :=
  if names.isEmpty then (s, .ok [])
  else
    match names.mapM fun n => (s.posts.need n).map fun p => (n, p) with
    | .error f => (s, .error f)
    | .ok ps =>
      match sharing? ps with
      | some what => (s, .error (.argument (.sharedInstance what)))
      | none =>
        let n := workerCount names.length workers
        let s0 := { s with world := s.world.note (.pooled names.length n) }
        if n < 0 then (s0, .error (.slip .badValue))
        else
          let (s1, rs) := runEach limit s0 names
          match rs.mapM id with
          | .error f => (s1, .error f)
          | .ok os =>
            ((names.zip (os.filterMap id)).foldl (fun s e => s.keep e.1 e.2) s1,
              .ok (os.filterMap id))

end Session

end Minimize
