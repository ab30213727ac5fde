-- What can go wrong, as causes. A `Fault` says what happened; its `kind`
-- names the family of failures that it belongs to, and its `message` words
-- it. A fault of the user's own making, or of an operation on values that
-- has no answer, is carried along unchanged.
import Minimize.Text.Quoted

namespace Minimize

/-- An operation on values without an answer. The first ones are named by
their family alone; those from `unordered` on have a wording. -/
inductive Slip where
  | wrongType
  | badValue
  | missingKey
  | missingAttribute
  | outOfRange
  | badIndex
  | malformedText
  | tooDeep
  | isFolder
  | noFile
  | fileExists
  | ioRefused
  | unordered (sign left right : String)
  | notReal (typeName : String)
  | notNumeral (shown : String)
  | notSingle
  | notAlone (empty : Bool)
  | apart (left right : List Nat)
  | tooLarge
  | tooManyDigits
  | noSuchKey (shown : String)
  deriving DecidableEq, Repr

/-- Why a setting is refused. -/
inductive Complaint where
  | intType
  | intParsing
  | intParsingSize
  | intFromFloat
  | finiteNumber
  | floatType
  | floatParsing
  | greaterThan
  | greaterThanEqual
  | dictType
  | stringType
  | stringUnicode
  | boolType
  | boolParsing
  | extraForbidden
  | budgetNotPositive (counter : String)
  deriving DecidableEq, Repr

/-- A refused setting: where it stands, and why. -/
structure Issue where
  location : List String
  complaint : Complaint
  deriving DecidableEq, Repr

/-- A configuration that is refused. -/
inductive Misconfiguration where
  | notPositive (what : String) (shown : String)
  | unknownSetting (name : String)
  | refused (issues : List Issue)
  | duplicateObserver (name : String)
  | badKey (shown : String)
  | notSolver (typeName : String)
  | notState (typeName : String)
  | notStore (typeName : String)
  deriving DecidableEq, Repr

/-- A call that comes at the wrong time. -/
inductive Misuse where
  | wrongPhase (action phase : String)
  | terminatedTwice (standing refused : String)
  deriving DecidableEq, Repr

/-- An argument of the wrong kind, or out of its domain. -/
inductive BadArgument where
  | recordKey (typeName : String)
  | recordValue (key typeName : String)
  | wrappedTwice
  | notCallable (capability typeText : String)
  | notObserver (typeText : String)
  | notLogger (typeText : String)
  | appendMode (shown : String)
  | sharedInstance (what : String)
  | missingRecords (path : String)
  deriving DecidableEq, Repr

/-- Trouble with a stored checkpoint. -/
inductive CheckpointTrouble where
  | notStored
  | absent (path : String)
  | unreadable (path : String)
  | unwritable (directory : String)
  | unserializable (text : String)
  | notPair
  | other (text : String)
  deriving DecidableEq, Repr

/-- The moment at which an observer failed. -/
inductive SinkMoment where
  | setup
  | notify (iteration : Int)
  | finish
  deriving DecidableEq, Repr

/-- A tag of a marked-up text that ends what no tag began, with its place. -/
inductive LooseTag where
  | notOpen (body : String) (place : Nat)
  | nothingOpen (place : Nat)
  deriving DecidableEq, Repr

/-- What a user's fault was made of, as its text for readers and its exact
text. -/
structure Wording where
  plain : String
  shown : String
  deriving DecidableEq, Repr

/-- A failure. -/
inductive Fault where
  | capabilityMissing (capability : String) (owner : Option String)
  | malformedOutput (solver method typeName : String)
  | observer (name : String) (moment : SinkMoment) (cause : Fault)
  | observerOther (name text : String)
  | checkpointSave (key : String) (iteration : Int) (cause : Fault)
  | checkpoint (key : String) (trouble : CheckpointTrouble)
  | configuration (m : Misconfiguration)
  | lifecycle (m : Misuse)
  | argument (a : BadArgument)
  | markup (t : LooseTag)
  | notImplemented
  | raised (kind : String) (args : List Wording)
  | slip (s : Slip)
  deriving DecidableEq, Repr

namespace Slip

def kind : Slip → String
  | .wrongType => "TypeError"
  | .badValue => "ValueError"
  | .missingKey => "KeyError"
  | .missingAttribute => "AttributeError"
  | .outOfRange => "OverflowError"
  | .badIndex => "IndexError"
  | .malformedText => "JSONDecodeError"
  | .tooDeep => "RecursionError"
  | .isFolder => "IsADirectoryError"
  | .noFile => "FileNotFoundError"
  | .fileExists => "FileExistsError"
  | .ioRefused => "OSError"
  | .unordered .. => "TypeError"
  | .notReal _ => "TypeError"
  | .notNumeral _ => "ValueError"
  | .notSingle => "TypeError"
  | .notAlone _ => "ValueError"
  | .apart .. => "ValueError"
  | .tooLarge => "OverflowError"
  | .tooManyDigits => "ValueError"
  | .noSuchKey _ => "KeyError"

/-- The lengths of an array along its axes. -/
def shapeText : List Nat → String
  | [n] => "(" ++ toString n ++ ",)"
  | ns => "(" ++ ",".intercalate (ns.map toString) ++ ")"

/-- The wording of a slip, if it has one. -/
def message? : Slip → Option String
  | .unordered sign left right =>
    some ("'" ++ sign ++ "' not supported between instances of '" ++ left ++ "' and '" ++
      right ++ "'")
  | .notReal typeName =>
    some ("float() argument must be a string or a real number, not '" ++ typeName ++ "'")
  | .notNumeral shown => some ("could not convert string to float: " ++ shown)
  | .notSingle => some "only 0-dimensional arrays can be converted to Python scalars"
  | .notAlone false => some ("The truth value of an array with more than one element is " ++
      "ambiguous. Use a.any() or a.all()")
  | .notAlone true => some ("The truth value of an empty array is ambiguous. Use " ++
      "`array.size > 0` to check that an array is not empty.")
  | .apart left right => some ("operands could not be broadcast together with shapes " ++
      shapeText left ++ " " ++ shapeText right ++ " ")
  | .tooLarge => some "int too large to convert to float"
  | .tooManyDigits => some ("Exceeds the limit (4300 digits) for integer string conversion; " ++
      "use sys.set_int_max_str_digits() to increase the limit")
  | .noSuchKey shown => some shown
  | _ => none

/-- The exact text of a slip: its kind, and its wording in quotes. What names a
key is quoted already. -/
def shown (s : Slip) : String :=
  match s with
  | .noSuchKey key => s.kind ++ "(" ++ key ++ ")"
  | _ => match s.message? with
    | some text => s.kind ++ "(" ++ Text.quoted text ++ ")"
    | none => s.kind ++ "()"

end Slip

namespace Complaint

def kind : Complaint → String
  | .intType => "int_type"
  | .intParsing => "int_parsing"
  | .intParsingSize => "int_parsing_size"
  | .intFromFloat => "int_from_float"
  | .finiteNumber => "finite_number"
  | .floatType => "float_type"
  | .floatParsing => "float_parsing"
  | .greaterThan => "greater_than"
  | .greaterThanEqual => "greater_than_equal"
  | .dictType => "dict_type"
  | .stringType => "string_type"
  | .stringUnicode => "string_unicode"
  | .boolType => "bool_type"
  | .boolParsing => "bool_parsing"
  | .extraForbidden => "extra_forbidden"
  | .budgetNotPositive _ => "value_error"

/-- The message of a complaint that the criteria word themselves. -/
def message? : Complaint → Option String
  | .budgetNotPositive counter =>
    some ("Value error, evaluation budget for '" ++ counter ++ "' must be positive")
  | _ => none

end Complaint

namespace Misconfiguration

def message : Misconfiguration → String
  | .notPositive what shown => what ++ " requires a positive integer, got " ++ shown
  | .unknownSetting name => "Unknown executor setting: " ++ name
  | .refused issues => toString issues.length ++ " validation errors"
  | .duplicateObserver name => "Observer '" ++ name ++ "' is already registered"
  | .badKey shown => "Checkpoint key must match [A-Za-z0-9_.-]+, got " ++ shown
  | .notSolver typeName => "solver must implement Solver, got " ++ typeName
  | .notState typeName => "state must be a State, got " ++ typeName
  | .notStore typeName => "store must be a CheckpointStore, got " ++ typeName

end Misconfiguration

namespace SinkMoment

def text : SinkMoment → String
  | .setup => "setup failed"
  | .notify i => "notify failed at iteration " ++ toString i
  | .finish => "finish failed"

end SinkMoment

namespace Misuse

def message : Misuse → String
  | .wrongPhase action phase => "Cannot " ++ action ++ ": executor is " ++ phase
  | .terminatedTwice standing refused =>
    "State already terminated (" ++ standing ++ "); cannot terminate again with " ++ refused

end Misuse

namespace BadArgument

def message : BadArgument → String
  | .recordKey typeName => "KV keys must be str, got " ++ typeName
  | .recordValue key typeName =>
    "KV value for '" ++ key ++ "' must be int, float, str or bool, got " ++ typeName
  | .wrappedTwice => "Problem is already wrapped"
  | .notCallable capability typeText => capability ++ " must be callable, got " ++ typeText
  | .notObserver typeText => "Observer must define notify(), got " ++ typeText
  | .notLogger typeText => "logger must be a logging.Logger, got " ++ typeText
  | .appendMode shown => "mode must be 'w' or 'a', got " ++ shown
  | .sharedInstance what => "Executors must not share a " ++ what ++ " instance"
  | .missingRecords path => "Record file not found: " ++ path

def kind : BadArgument → String
  | .appendMode _ => "ValueError"
  | .sharedInstance _ => "ValueError"
  | .missingRecords _ => "FileNotFoundError"
  | _ => "TypeError"

end BadArgument

namespace LooseTag

def message : LooseTag → String
  | .notOpen body place => "closing tag '[" ++ body ++ "]' at position " ++ toString place ++
    " doesn't match any open tag"
  | .nothingOpen place => "closing tag '[/]' at position " ++ toString place ++
    " has nothing to close"

end LooseTag

namespace CheckpointTrouble

def message : CheckpointTrouble → String
  | .notStored => "no checkpoint stored"
  | .absent path => "no checkpoint at " ++ path
  | .unreadable path => "cannot read " ++ path ++ ": not a checkpoint"
  | .unwritable directory => "cannot write to " ++ directory ++ ": refused"
  | .unserializable text => "cannot serialize snapshot: " ++ text
  | .notPair => "payload is not a (solver, state) pair"
  | .other text => text

end CheckpointTrouble

namespace Wording

/-- A text in quotes where it has to be exact. -/
def ofText (s : String) : Wording := ⟨s, Text.quoted s⟩

/-- Several wordings in a row. -/
def row (ws : List Wording) : String := "(" ++ ", ".intercalate (ws.map shown) ++ ")"

end Wording

namespace Fault

/-- The family of a fault. -/
def kind : Fault → String
  | .capabilityMissing .. => "CapabilityNotImplemented"
  | .malformedOutput .. => "SolverError"
  | .observer .. => "ObserverError"
  | .observerOther .. => "ObserverError"
  | .checkpointSave .. => "CheckpointError"
  | .checkpoint .. => "CheckpointError"
  | .configuration _ => "InvalidConfiguration"
  | .lifecycle _ => "ExecutorStateError"
  | .argument a => a.kind
  | .markup _ => "MarkupError"
  | .notImplemented => "NotImplementedError"
  | .raised kind _ => kind
  | .slip s => s.kind

/-- The wording of a user's fault: that of the one thing that it was made of,
exact if it is a key that is missing, or the row of all of them. -/
def raisedText (kind : String) : List Wording → String
  | [] => ""
  | [w] => if kind = "KeyError" then w.shown else w.plain
  | ws => Wording.row ws

/-- The wording of a fault. -/
def message : Fault → String
  | .capabilityMissing capability owner =>
    owner.getD "problem" ++ " does not implement '" ++ capability ++ "'"
  | .malformedOutput name method typeName =>
    name ++ "." ++ method ++ " must return (State, Optional[KV]), got " ++ typeName
  | .observer name moment cause =>
    "Observer '" ++ name ++ "': " ++ moment.text ++ ": " ++ cause.message
  | .observerOther name text => "Observer '" ++ name ++ "': " ++ text
  | .checkpointSave key i cause =>
    "Checkpoint '" ++ key ++ "': save failed at iteration " ++ toString i ++ ": " ++ cause.message
  | .checkpoint key trouble => "Checkpoint '" ++ key ++ "': " ++ trouble.message
  | .configuration m => m.message
  | .lifecycle m => m.message
  | .argument a => a.message
  | .markup t => t.message
  | .notImplemented => ""
  | .raised kind args => raisedText kind args
  | .slip s => s.message?.getD ""

/-- Whether the wording of a fault is our own or the user's. -/
def isWorded : Fault → Bool
  | .slip _ => false
  | _ => true

/-- The exact text of a fault: its kind, and what it was made of or its
wording in quotes. -/
def shown : Fault → String
  | .notImplemented => "NotImplementedError()"
  | .raised kind args => kind ++ Wording.row args
  | .slip s => s.shown
  | f => f.kind ++ "(" ++ Text.quoted f.message ++ ")"

/-- The kind that a name stands for: some have several names. -/
def kindNamed (name : String) : String :=
  if name = "IOError" ∨ name = "EnvironmentError" then "OSError" else name

/-- The fault of a given kind made of one thing. A checkpoint or an observer
that is not named otherwise goes by the name `scripted`. -/
def ofKind (kind : String) (w : Wording) : Fault :=
  if kind = "CapabilityNotImplemented" then .capabilityMissing w.plain none
  else if kind = "ObserverError" then .observerOther "scripted" w.plain
  else if kind = "CheckpointError" then .checkpoint "scripted" (.other w.plain)
  else .raised (kindNamed kind) [w]

/-- The fault of a given kind made of several things. A fault of a missing
capability may name the type of its owner, and the kinds that are made of a
number of things of their own take no other number. -/
def ofArguments (kind : String) (owner : Option String) (ws : List Wording) : Except Slip Fault :=
  if kind = "CapabilityNotImplemented" then match ws with
    | [capability] => .ok (.capabilityMissing capability.plain none)
    | [capability, _] => .ok (.capabilityMissing capability.plain owner)
    | _ => .error .wrongType
  else if kind = "ObserverError" then match ws with
    | [name, text] => .ok (.observerOther name.plain text.plain)
    | _ => .error .wrongType
  else if kind = "CheckpointError" then match ws with
    | [key, text] => .ok (.checkpoint key.plain (.other text.plain))
    | _ => .error .wrongType
  else .ok (.raised (kindNamed kind) ws)

/-- The families that stand above others, each with those below it. -/
def kinships : List (String × List String) :=
  [("OptiloopError", ["CapabilityNotImplemented", "SolverError", "ObserverError",
      "CheckpointError", "InvalidConfiguration", "ExecutorStateError"]),
    ("NotImplementedError", ["CapabilityNotImplemented"]),
    ("ValueError", ["InvalidConfiguration"])]

/-- The families above others that a fault belongs to. -/
def families (f : Fault) : List String :=
  (kinships.filter fun k => (k.1 :: k.2).contains f.kind).map (·.1)

/-- A fault of a checkpoint. -/
def isCheckpoint : Fault → Bool
  | .checkpointSave .. => true
  | .checkpoint .. => true
  | _ => false

/-- What kind of thing a fault is about, if it tells. -/
def subjectKind? : Fault → Option String
  | .capabilityMissing .. => some "capability"
  | .observer .. => some "observer_name"
  | .observerOther .. => some "observer_name"
  | .checkpointSave .. => some "key"
  | .checkpoint .. => some "key"
  | _ => none

end Fault

end Minimize
