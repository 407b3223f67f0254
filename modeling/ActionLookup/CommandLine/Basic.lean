import ActionLookup.Path
import ActionLookup.Settings

namespace ActionLookup

structure CommandLine where
  asset : Path
  outDir : Option Path
  className : String
  enclosing : Option String
  vectorFunction : String
  buttonFunction : String
  crlf : Bool
  duplicates : DuplicatePolicy
  noValidate : Bool
  stdout : Bool
  check : Bool
  verbose : Nat
  deriving DecidableEq, Repr

namespace CommandLine

def settings (c : CommandLine) : Settings where
  className := c.className
  enclosing := c.enclosing
  vectorFunction := c.vectorFunction
  buttonFunction := c.buttonFunction
  lineEnding := if c.crlf then .crlf else .lf
  duplicates := c.duplicates
  validates := !c.noValidate

/-- Next to the asset, unless a directory is given. -/
def outputDir (c : CommandLine) : Path :=
  match c.outDir with
  | some dir => dir
  | none =>
      match c.asset.parent? with
      | none => ⟨.here, []⟩
      | some parent => if parent.text = "" then ⟨.here, []⟩ else parent

def logFilter (c : CommandLine) : String :=
  match c.verbose with
  | 0 => "warn"
  | 1 => "info"
  | _ => "debug"

end CommandLine

inductive Usage where
  | missingRequiredArgument
  | unknownArgument
  | invalidValue
  | argumentConflict
  | tooManyValues
  | displayHelp
  | displayVersion
  deriving DecidableEq, Repr

namespace Usage

def text : Usage → String
  | .missingRequiredArgument => "MissingRequiredArgument"
  | .unknownArgument => "UnknownArgument"
  | .invalidValue => "InvalidValue"
  | .argumentConflict => "ArgumentConflict"
  | .tooManyValues => "TooManyValues"
  | .displayHelp => "DisplayHelp"
  | .displayVersion => "DisplayVersion"

/-- Showing help or the version is no failure. -/
def exitCode : Usage → Nat
  | .displayHelp => 0
  | .displayVersion => 0
  | _ => 2

end Usage

end ActionLookup
