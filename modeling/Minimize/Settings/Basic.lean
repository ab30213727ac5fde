-- The settings of a run: its criteria, whether it is timed, and a label.
-- Settings are changed by name. A change writes the settings out as named
-- values, lays the changes over them, and reads all of them again.
import Minimize.Termination.Criteria

namespace Minimize

structure Settings where
  criteria : Criteria
  timer : Bool
  runName : Option String

namespace Settings

/-- No criteria, timed, without a label. -/
def standard : Settings := ⟨.unset, true, none⟩

/-- The settings that are not criteria. -/
def ownNames : List String := ["timer", "run_name"]

def isKnown (name : String) : Bool :=
  Criteria.settingNames.contains name || ownNames.contains name

/-- The settings as named values. -/
def toSettings (s : Settings) : Table Value :=
  (s.criteria.toSettings.insert "timer" (.bool s.timer)).insert "run_name"
    (Criteria.optionValue .text s.runName)

/-- The named values that belong to one group of settings. -/
def select (names : List String) (t : Table Value) : Table Value :=
  .ofList (t.entries.filter fun e => names.contains e.1)

/-- The settings that named values give. The criteria are read first, and a
complaint about them hides the rest. -/
def ofSettings (t : Table Value) : Except (List Issue) Settings := do
  let criteria ← Criteria.ofSettings (select Criteria.settingNames t)
  let timer := Criteria.located ["timer"] (Lax.truth ((t.get? "timer").getD (.bool true)))
  let runName := Criteria.located ["run_name"]
    (Lax.optional Lax.text ((t.get? "run_name").getD .null))
  match timer, runName with
  | .ok a, .ok b => .ok ⟨criteria, a, b⟩
  | _, _ => .error (Criteria.issuesOf timer ++ Criteria.issuesOf runName)

/-- The settings with changes over them. The settings themselves go by the name
`self`, under which there can be no change. An unknown name is refused before
any value is read. -/
def updated (s : Settings) (changes : Table Value) : Except Fault Settings :=
  if changes.contains "self" then .error (.slip .wrongType)
  else
    match changes.keys.find? (fun k => !isKnown k) with
    | some name => .error (.configuration (.unknownSetting name))
    | none =>
      (ofSettings (s.toSettings.merge changes)).mapError fun is => .configuration (.refused is)

/-- The standard settings with changes over them. The kind of the settings goes
by the name `cls`. -/
def create (changes : Table Value) : Except Fault Settings :=
  if changes.contains "cls" then .error (.slip .wrongType) else standard.updated changes

end Settings

end Minimize
