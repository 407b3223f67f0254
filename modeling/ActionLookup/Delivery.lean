import ActionLookup.FileTree.Access
import ActionLookup.Generation

namespace ActionLookup

open FileTree

/-- An asset without a name is named after its file. -/
def Asset.schemaOfFile (t : FileTree) (cwd : Location) (p : Path) : Report AssetProblem Schema :=
  match t.readText cwd p with
  | .error cause => .fail (.io cause)
  | .ok text => Asset.schemaOfJson text p.stem?

def Generation.generateFromFile (t : FileTree) (cwd : Location) (p : Path) (settings : Settings) :
    Report GenerationProblem Module := do
  let schema ← (Asset.schemaOfFile t cwd p).mapError .asset
  generate schema settings

namespace Module

def fileIn (m : Module) (dir : Path) : Path := dir.child m.fileName

/-- Directories that were made stay, even if the file cannot be written. -/
def writeTo (m : Module) (t : FileTree) (cwd : Location) (dir : Path) :
    FileTree × Report GenerationProblem Path :=
  match t.makeDirectories cwd dir with
  | (t, .error cause) => (t, .fail (.write dir.text cause))
  | (t, .ok ()) =>
      match t.writeFile cwd (m.fileIn dir) m.source.toUTF8 with
      | .error cause => (t, .fail (.write (m.fileIn dir).text cause))
      | .ok t => (t, ⟨[.wrote (m.fileIn dir).text], .ok (m.fileIn dir)⟩)

/-- A file that is not there is not up to date; one that cannot be read is a problem. -/
def isUpToDate (m : Module) (t : FileTree) (cwd : Location) (dir : Path) :
    Except GenerationProblem Bool :=
  match t.readText cwd (m.fileIn dir) with
  | .ok text => .ok (text = m.source)
  | .error .noEntry => .ok false
  | .error cause => .error (.io cause)

end Module

end ActionLookup
