import ActionLookup.CommandLine.Basic

namespace ActionLookup.CommandLine

inductive Opt where
  | outDir
  | className
  | enclosing
  | vectorFunction
  | buttonFunction
  | duplicates
  deriving DecidableEq, Repr

inductive Flag where
  | crlf
  | noValidate
  | stdout
  | check
  | verbose
  | help
  | version
  deriving DecidableEq, Repr

inductive Switch where
  | opt (o : Opt)
  | flag (f : Flag)
  deriving DecidableEq, Repr

def Opt.long : Opt → String
  | .outDir => "out-dir"
  | .className => "class-name"
  | .enclosing => "namespace"
  | .vectorFunction => "vector-fn"
  | .buttonFunction => "button-fn"
  | .duplicates => "duplicates"

def Flag.long : Flag → String
  | .crlf => "crlf"
  | .noValidate => "no-validate"
  | .stdout => "stdout"
  | .check => "check"
  | .verbose => "verbose"
  | .help => "help"
  | .version => "version"

def Switch.all : List Switch := [
  .opt .outDir, .opt .className, .opt .enclosing, .opt .vectorFunction, .opt .buttonFunction,
  .opt .duplicates, .flag .crlf, .flag .noValidate, .flag .stdout, .flag .check, .flag .verbose,
  .flag .help, .flag .version]

def Switch.long : Switch → String
  | .opt o => o.long
  | .flag f => f.long

theorem Switch.mem_all (s : Switch) : s ∈ all := by
  cases s with
  | opt o => cases o <;> decide
  | flag f => cases f <;> decide

/-- A long name is never abbreviated. -/
def Switch.ofLong? (name : String) : Option Switch := all.find? fun s => s.long == name

def Switch.ofShort? : Char → Option Switch
  | 'o' => some (.opt .outDir)
  | 'v' => some (.flag .verbose)
  | 'h' => some (.flag .help)
  | 'V' => some (.flag .version)
  | _ => none

/-- An argument by its looks. A lone dash is plain. -/
inductive Argument where
  | plain
  | escape
  | long (name : String) (value : Option String)
  | short (letters : List Char)
  deriving DecidableEq, Repr

def splitEquals (cs : List Char) : String × Option String :=
  (String.ofList (cs.takeWhile (· ≠ '=')),
    match cs.dropWhile (· ≠ '=') with
    | [] => none
    | _ :: value => some (String.ofList value))

def Argument.ofText (text : String) : Argument :=
  match text.toList with
  | '-' :: '-' :: [] => .escape
  | '-' :: '-' :: rest =>
      let (name, value) := splitEquals rest
      .long name value
  | '-' :: [] => .plain
  | '-' :: letters => .short letters
  | _ => .plain

end ActionLookup.CommandLine
