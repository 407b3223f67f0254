import ActionLookup.Name
import ActionLookup.Text.Pieces

namespace ActionLookup

inductive LineEnding where
  | lf
  | crlf
  deriving DecidableEq, Repr

def LineEnding.text : LineEnding → String
  | .lf => "\n"
  | .crlf => "\r\n"

inductive DuplicatePolicy where
  | firstWins
  | reject
  deriving DecidableEq, Repr

structure Settings where
  className : String
  enclosing : Option String
  vectorFunction : String
  buttonFunction : String
  lineEnding : LineEnding
  duplicates : DuplicatePolicy
  validates : Bool
  deriving DecidableEq, Repr

inductive SettingsProblem where
  | className (name : String)
  | vectorFunction (name : String)
  | buttonFunction (name : String)
  | enclosing (name : String)
  | classClash (name : String)
  | other (text : String)
  deriving DecidableEq, Repr

def SettingsProblem.message : SettingsProblem → String
  | .className name => s!"invalid class name '{name}'"
  | .vectorFunction name => s!"invalid vector function '{name}'"
  | .buttonFunction name => s!"invalid button function '{name}'"
  | .enclosing name => s!"invalid namespace '{name}'"
  | .classClash name => s!"class name '{name}' clashes with the asset class of the same name"
  | .other text => text

namespace Settings

def default : Settings :=
  ⟨"InputManager", none, "GetVector2", "GetButton", .lf, .firstWins, true⟩

def fileName (s : Settings) : String := s.className ++ ".cs"

def classDepth (s : Settings) : Nat := if s.enclosing.isSome then 1 else 0

def memberDepth (s : Settings) : Nat := s.classDepth + 1

def isNamespace (name : String) : Bool := (Text.pieces '.' name.toList).all Name.identifierChars

/-- The first name that is not usable. -/
def problem? (s : Settings) : Option SettingsProblem :=
  if !Name.isIdentifier s.className then some (.className s.className)
  else if !Name.isIdentifier s.vectorFunction then some (.vectorFunction s.vectorFunction)
  else if !Name.isIdentifier s.buttonFunction then some (.buttonFunction s.buttonFunction)
  else
    match s.enclosing with
    | none => none
    | some name => if isNamespace name then none else some (.enclosing name)

end Settings

end ActionLookup
