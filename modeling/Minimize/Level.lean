-- How much a line of a log matters: five levels with ranks, from what only
-- helps to search for a mistake up to what ends everything.
namespace Minimize

inductive Level where
  | debug
  | info
  | warning
  | error
  | critical
  deriving DecidableEq, Repr

namespace Level

def all : List Level := [.debug, .info, .warning, .error, .critical]

def name : Level → String
  | .debug => "DEBUG"
  | .info => "INFO"
  | .warning => "WARNING"
  | .error => "ERROR"
  | .critical => "CRITICAL"

def rank : Level → Nat
  | .debug => 10
  | .info => 20
  | .warning => 30
  | .error => 40
  | .critical => 50

/-- The rank that a name stands for: a level by its name or a shorter one,
or no rank at all. -/
def rankOfName? (s : String) : Option Int :=
  match s with
  | "NOTSET" => some 0
  | "WARN" => some 30
  | "FATAL" => some 50
  | s => (all.find? fun l => l.name = s).map fun l => l.rank

/-- The rank from which on a log takes lines. A log without a rank takes
warnings and what matters more. -/
def threshold (rank : Int) : Int := if rank = 0 then Level.warning.rank else rank

/-- The name of a rank: that of its level, or the rank itself. -/
def nameOfRank (rank : Int) : String :=
  match all.find? (fun l => (l.rank : Int) = rank) with
  | some l => l.name
  | none => "Level " ++ toString rank

end Level

end Minimize
