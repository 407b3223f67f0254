import ActionLookup.CommandLine.Argument

/-!
Reading a command line from left to right.

A value that stands as an argument of its own is pending until the next known argument, or the
end, settles it; so an unknown argument is told before a bad value right before it.
-/

namespace ActionLookup.CommandLine

structure Given where
  asset : Option Path
  outDir : Option Path
  className : Option String
  enclosing : Option String
  vectorFunction : Option String
  buttonFunction : Option String
  duplicates : Option DuplicatePolicy
  crlf : Bool
  noValidate : Bool
  stdout : Bool
  check : Bool
  verbose : Nat
  deriving DecidableEq, Repr

def Given.nothing : Given :=
  ⟨none, none, none, none, none, none, none, false, false, false, false, 0⟩

inductive Pending where
  | nothing
  | asset (text : String)
  | opt (o : Opt) (value : Option String)
  deriving DecidableEq, Repr

/-- The asset's place is taken as soon as it is read. -/
structure Reading where
  given : Given
  pending : Pending
  assetTaken : Bool
  escaped : Bool
  deriving DecidableEq, Repr

def Reading.start : Reading := ⟨.nothing, .nothing, false, false⟩

def pathOf (text : String) : Except Usage Path :=
  if text = "" then .error .invalidValue else .ok (Path.ofText text)

def duplicatesOf (text : String) : Except Usage DuplicatePolicy :=
  if text = "first-wins" then .ok .firstWins
  else if text = "reject" then .ok .reject
  else .error .invalidValue

def once {α : Type} (earlier : Option α) (value : Except Usage α) : Except Usage (Option α) :=
  if earlier.isSome then .error .argumentConflict
  else
    match value with
    | .error u => .error u
    | .ok a => .ok (some a)

namespace Given

def setOpt (g : Given) (o : Opt) (value : String) : Except Usage Given :=
  match o with
  | .outDir => (once g.outDir (pathOf value)).map fun outDir => { g with outDir }
  | .className => (once g.className (.ok value)).map fun className => { g with className }
  | .enclosing => (once g.enclosing (.ok value)).map fun enclosing => { g with enclosing }
  | .vectorFunction =>
      (once g.vectorFunction (.ok value)).map fun vectorFunction => { g with vectorFunction }
  | .buttonFunction =>
      (once g.buttonFunction (.ok value)).map fun buttonFunction => { g with buttonFunction }
  | .duplicates => (once g.duplicates (duplicatesOf value)).map fun duplicates => { g with duplicates }

def setFlag (g : Given) (f : Flag) : Except Usage Given :=
  match f with
  | .crlf => if g.crlf then .error .argumentConflict else .ok { g with crlf := true }
  | .noValidate => if g.noValidate then .error .argumentConflict else .ok { g with noValidate := true }
  | .stdout => if g.stdout then .error .argumentConflict else .ok { g with stdout := true }
  | .check => if g.check then .error .argumentConflict else .ok { g with check := true }
  | .verbose => .ok { g with verbose := min (g.verbose + 1) 255 }
  | .help => .error .displayHelp
  | .version => .error .displayVersion

def settle (g : Given) : Pending → Except Usage Given
  | .nothing => .ok g
  | .asset text => (pathOf text).map fun asset => { g with asset := some asset }
  | .opt _ none => .error .invalidValue
  | .opt o (some value) => g.setOpt o value

end Given

namespace Reading

def settled (r : Reading) (next : Given → Except Usage Given) : Except Usage Reading :=
  match r.given.settle r.pending with
  | .error u => .error u
  | .ok given =>
      match next given with
      | .error u => .error u
      | .ok given => .ok { r with given, pending := .nothing }

def readFlag (r : Reading) (f : Flag) : Except Usage Reading := r.settled fun given => given.setFlag f

/-- A value in the same argument is settled at once, one to come is waited for. -/
def readOpt (r : Reading) (o : Opt) : Option String → Except Usage Reading
  | some value => r.settled fun given => given.setOpt o value
  | none => (r.settled .ok).map fun r => { r with pending := .opt o none }

def readLong (r : Reading) (name : String) (value : Option String) : Except Usage Reading :=
  match Switch.ofLong? name with
  | none => .error .unknownArgument
  | some (.opt o) => r.readOpt o value
  | some (.flag f) => if value.isSome then .error .tooManyValues else r.readFlag f

/-- The value in the rest of a cluster; an equals sign in front of it is left out. -/
def attached : List Char → Option String
  | [] => none
  | '=' :: rest => some (String.ofList rest)
  | rest => some (String.ofList rest)

def readShort : Reading → List Char → Except Usage Reading
  | r, [] => .ok r
  | r, c :: rest =>
      match Switch.ofShort? c with
      | none => .error .unknownArgument
      | some (.opt o) => r.readOpt o (attached rest)
      | some (.flag f) =>
          match r.readFlag f with
          | .error u => .error u
          | .ok r => readShort r rest

def readAsset (r : Reading) (text : String) : Except Usage Reading :=
  if r.assetTaken then .error .unknownArgument
  else (r.settled .ok).map fun r => { r with pending := .asset text, assetTaken := true }

def readPlain (r : Reading) (text : String) : Except Usage Reading :=
  match r.pending with
  | .opt o none => .ok { r with pending := .opt o (some text) }
  | _ => r.readAsset text

def read (r : Reading) (text : String) : Except Usage Reading :=
  if r.escaped then r.readAsset text
  else
    match Argument.ofText text with
    | .escape => .ok { r with escaped := true }
    | .long name value => r.readLong name value
    | .short letters => r.readShort letters
    | .plain => r.readPlain text

def readAll : Reading → List String → Except Usage Reading
  | r, [] => .ok r
  | r, text :: rest =>
      match r.read text with
      | .error u => .error u
      | .ok r => readAll r rest

end Reading

/-- Conflicts come before what is missing; what is not given has its default. -/
def ofGiven (g : Given) : Except Usage CommandLine :=
  if g.stdout && g.check then .error .argumentConflict
  else
    match g.asset with
    | none => .error .missingRequiredArgument
    | some asset => .ok {
        asset := asset
        outDir := g.outDir
        className := g.className.getD Settings.default.className
        enclosing := g.enclosing
        vectorFunction := g.vectorFunction.getD Settings.default.vectorFunction
        buttonFunction := g.buttonFunction.getD Settings.default.buttonFunction
        crlf := g.crlf
        duplicates := g.duplicates.getD Settings.default.duplicates
        noValidate := g.noValidate
        stdout := g.stdout
        check := g.check
        verbose := g.verbose }

def ofArguments (args : List String) : Except Usage CommandLine :=
  match Reading.start.readAll args with
  | .error u => .error u
  | .ok r =>
      match r.given.settle r.pending with
      | .error u => .error u
      | .ok given => ofGiven given

end ActionLookup.CommandLine
