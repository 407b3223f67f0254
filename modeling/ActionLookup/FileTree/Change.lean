import ActionLookup.FileTree.Access

namespace ActionLookup.FileTree

/-- Directories that are missing on the way are made as well, and whatever fails stays undone. -/
def plant (t : FileTree) (cwd : Location) (p : Path) : Node → FileTree
  | .directory => (t.makeDirectories cwd p).1
  | .file content =>
      let t := match p.parent? with
        | none => t
        | some parent => (t.makeDirectories cwd parent).1
      match t.writeFile cwd p content with
      | .error _ => t
      | .ok t => t

/-- A path whose last name is a dot or two, whatever slashes follow it, leads to a directory that can be
emptied but not removed. -/
def keeps (p : Path) : Bool :=
  match (dropSlashes p.body).getLast? with
  | none => true
  | some piece => piece == "." || piece == ".."

def eraseBelow (t : FileTree) (dir : Location) : FileTree :=
  (t.below dir).foldl (fun t (loc, _) => t.erase (dir ++ loc)) t

def remove (t : FileTree) (cwd : Location) (p : Path) : FileTree :=
  match t.locate cwd p with
  | .error _ => t
  | .ok loc => if keeps p then t.eraseBelow loc else t.erase loc

inductive Change where
  | now (loc : Location) (node : Node)
  | removed (loc : Location) (node : Node)

def changes (before after : FileTree) (dir : Location) : List Change :=
  ((after.below dir).filterMap fun (loc, node) =>
    if before.get? (dir ++ loc) = some node then none else some (.now loc node))
  ++ (before.below dir).filterMap fun (loc, node) =>
    if (after.get? (dir ++ loc)).isNone then some (.removed loc node) else none

end ActionLookup.FileTree
