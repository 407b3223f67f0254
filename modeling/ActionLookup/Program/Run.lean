import ActionLookup.CommandLine.Reading
import ActionLookup.Delivery
import ActionLookup.Program.LogFilter

namespace ActionLookup

open FileTree

/-- A failure with what was being done and what lies behind it, outermost first. -/
abbrev Failure := List String

namespace Failure

def message (f : Failure) : String := ": ".intercalate f

def ofAsset (context : String) (p : AssetProblem) : Failure := context :: p.message :: p.causes

def ofGeneration (p : GenerationProblem) : Failure := p.message :: p.causes

end Failure

inductive Notice where
  | event (e : Event)
  | own (text : String)
  deriving DecidableEq, Repr

structure Run where
  tree : FileTree
  exitCode : Nat
  stdout : String
  notices : List Notice

namespace Run

def success : Nat := 0

def failure : Nat := 1

def failed (t : FileTree) (events : List Event) (f : Failure) : Run :=
  ⟨t, failure, "", events.map .event ++ [.own s!"Error: {f.message}"]⟩

def moduleOf (c : CommandLine) (t : FileTree) (cwd : Location) : Report Failure Module :=
  if !t.isFile cwd c.asset then .fail [s!"Asset does not exist: {c.asset.text}"]
  else do
    let schema ← (Asset.schemaOfFile t cwd c.asset).mapError
      (Failure.ofAsset s!"Failed to load asset: {c.asset.text}")
    (Generation.generate schema c.settings).mapError fun p =>
      s!"Failed to generate from: {c.asset.text}" :: Failure.ofGeneration p

def print (m : Module) (t : FileTree) (events : List Event) : Run :=
  ⟨t, success, m.source, events.map .event⟩

def compare (m : Module) (t : FileTree) (cwd : Location) (dir : Path) (events : List Event) : Run :=
  match m.isUpToDate t cwd dir with
  | .error p => failed t events (Failure.ofGeneration p)
  | .ok true => ⟨t, success, "", (events ++ [Event.upToDate (m.fileIn dir).text]).map .event⟩
  | .ok false => ⟨t, failure, "", events.map .event ++ [.own s!"{(m.fileIn dir).text} is out of date"]⟩

def save (m : Module) (t : FileTree) (cwd : Location) (dir : Path) (events : List Event) : Run :=
  match m.writeTo t cwd dir with
  | (t, ⟨more, .error p⟩) =>
      failed t (events ++ more) ("Failed to save the generated class" :: Failure.ofGeneration p)
  | (t, ⟨more, .ok path⟩) =>
      ⟨t, success, "", (events ++ more).map .event ++ [.own s!"Generated {path.text}"]⟩

def ofCommandLine (c : CommandLine) (t : FileTree) (cwd : Location) : Run :=
  match moduleOf c t cwd with
  | ⟨events, .error f⟩ => failed t events f
  | ⟨events, .ok m⟩ =>
      if c.stdout then print m t events
      else if c.check then compare m t cwd c.outputDir events
      else save m t cwd c.outputDir events

def stderrLines (r : Run) (filter : LogFilter) : List String :=
  r.notices.filterMap fun notice =>
    match notice with
    | .event e => if filter.shows e then some e.logLine else none
    | .own text => some text

def stderr (r : Run) (filter : LogFilter) : String :=
  String.join ((r.stderrLines filter).map fun line => line ++ "\n")

/-- The filter asked for, if it can be read; else the one for the verbosity. -/
def logFilter (c : CommandLine) (asked : Option String) : LogFilter :=
  match asked.bind LogFilter.ofText? with
  | some filter => filter
  | none => (LogFilter.ofText? c.logFilter).getD []

end Run

end ActionLookup
