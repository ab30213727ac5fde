-- The keys under which checkpoints are kept: plain identifiers, so that a
-- key can be the name of a file.
import Minimize.Value.Compare
import Minimize.Value.Display

namespace Minimize.Checkpoint

/-- The characters of keys: ASCII letters, digits, and three marks. -/
def isKeyChar (c : Char) : Bool :=
  let n := c.toNat
  (0x41 ≤ n && n ≤ 0x5a) || (0x61 ≤ n && n ≤ 0x7a) || (0x30 ≤ n && n ≤ 0x39) ||
    c == '_' || c == '.' || c == '-'

/-- The characters without a line feed at the end. -/
def withoutLineEnd (cs : List Char) : List Char :=
  match cs.getLast? with
  | some '\n' => cs.dropLast
  | _ => cs

/-- Whether a text is a key. A line feed at its end does not count, and the
two names that every directory has are no keys. -/
def isKey (s : String) : Bool :=
  let cs := withoutLineEnd s.toList
  !cs.isEmpty && cs.all isKeyChar && s != "." && s != ".."

/-- The key that a value is, or the refusal. -/
def validateKey (v : Value) : Except Fault String :=
  match v.text? with
  | some s => if isKey s then .ok s else .error (.configuration (.badKey v.shown))
  | none => .error (.configuration (.badKey v.shown))

end Minimize.Checkpoint
