import ActionLookup.FileTree.Change
import ActionLookup.Program.Run

/-!
The command line. What lies on the way of the paths that a run may follow is looked up on disk,
the run is computed, and what it changed is written back.
-/

namespace ActionLookup.Main

open FileTree

def diskPath (loc : Location) : String := "/" ++ "/".intercalate loc

def plantAt (t : FileTree) (loc : Location) (node : Node) : FileTree :=
  t.plant [] (Path.ofText (diskPath loc)) node

def lookAt (loc : Location) : IO (Option Node) := do
  try
    return some (.file (← IO.FS.readBinFile (diskPath loc)))
  catch e =>
    match e with
    | .inappropriateType .. => return some .directory
    | _ => return none

def follow (t : FileTree) (loc : Location) : List String → IO FileTree
  | [] => return t
  | piece :: rest => do
      if Path.isIdle piece then follow t loc rest
      else if piece = ".." then follow t loc.dropLast rest
      else
        match ← lookAt (loc ++ [piece]) with
        | none => return t
        | some node => follow (plantAt t (loc ++ [piece]) node) (loc ++ [piece]) rest

/-- The part of the disk that a run with this command line can see. -/
def snapshot (c : CommandLine) (cwd : Location) : IO FileTree := do
  let home := plantAt .empty cwd .directory
  let output := c.outputDir.child c.settings.fileName
  let t ← follow home (origin cwd c.asset) c.asset.body
  follow t (origin cwd output) output.body

def apply : Change → IO Unit
  | .now loc .directory => IO.FS.createDir (diskPath loc)
  | .now loc (.file content) => IO.FS.writeBinFile (diskPath loc) content
  | .removed .. => return

def workingDirectory : IO Location := do
  let path := Path.ofText (← IO.currentDir).toString
  return path.body.filter fun piece => !Path.isIdle piece

def perform (c : CommandLine) : IO UInt32 := do
  let cwd ← workingDirectory
  let before ← snapshot c cwd
  let run := Run.ofCommandLine c before cwd
  (changes before run.tree []).reverse.forM apply
  IO.print run.stdout
  IO.eprint (run.stderr (Run.logFilter c (← IO.getEnv "RUST_LOG")))
  return UInt32.ofNat run.exitCode

def usage : String := "Usage: inputgen [OPTIONS] <ASSET>"

def version : String := "inputgen 0.1.0"

def explain (u : Usage) : IO UInt32 := do
  match u with
  | .displayHelp => IO.println usage
  | .displayVersion => IO.println version
  | _ => IO.eprintln s!"error: {u.text}\n\n{usage}"
  return UInt32.ofNat u.exitCode

def start (args : List String) : IO UInt32 := do
  match CommandLine.ofArguments args with
  | .error u => explain u
  | .ok c =>
      try perform c
      catch e =>
        IO.eprintln s!"Error: {e}"
        return 1

end ActionLookup.Main

def main (args : List String) : IO UInt32 := ActionLookup.Main.start args
