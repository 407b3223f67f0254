import ActionLookup.FileTree.Basic

/-!
Looking paths up in a tree, reading and writing files, and making directories.

A path is walked name by name from the root or from the working directory. Making a directory
is tried at once; only where its parent is missing are the parents made first.
-/

namespace ActionLookup.FileTree

def nameBytes : Nat := 255

/-- A path of this many bytes is too long. -/
def pathBytes : Nat := 4096

def refusal? (p : Path) : Option Cause :=
  if p.text.toList.contains '\x00' then some .nulInName
  else if p.text = "" then some .noEntry
  else if pathBytes ≤ p.text.utf8ByteSize then some .nameTooLong
  else none

def origin (cwd : Location) (p : Path) : Location :=
  match p.anchor with
  | .root => []
  | .here => cwd
  | .bare => cwd

def walkOne (t : FileTree) (loc : Location) (piece : String) : Except Cause Location :=
  if !t.isDirectory loc then .error .notDirectory
  else if Path.isIdle piece then .ok loc
  else if piece = ".." then .ok loc.dropLast
  else if nameBytes < piece.utf8ByteSize then .error .nameTooLong
  else if (t.get? (loc ++ [piece])).isNone then .error .noEntry
  else .ok (loc ++ [piece])

def walk (t : FileTree) : Location → List String → Except Cause Location
  | loc, [] => .ok loc
  | loc, piece :: rest =>
      match t.walkOne loc piece with
      | .error e => .error e
      | .ok loc => t.walk loc rest

def locate (t : FileTree) (cwd : Location) (p : Path) : Except Cause Location :=
  match refusal? p with
  | some cause => .error cause
  | none => t.walk (origin cwd p) p.body

def isFile (t : FileTree) (cwd : Location) (p : Path) : Bool :=
  match t.locate cwd p with
  | .error _ => false
  | .ok loc => !t.isDirectory loc

def isFolder (t : FileTree) (cwd : Location) (p : Path) : Bool :=
  match t.locate cwd p with
  | .error _ => false
  | .ok loc => t.isDirectory loc

def readBytes (t : FileTree) (cwd : Location) (p : Path) : Except Cause ByteArray :=
  match t.locate cwd p with
  | .error e => .error e
  | .ok loc =>
      match t.get? loc with
      | none => .error .noEntry
      | some .directory => .error .isDirectory
      | some (.file content) => .ok content

def readText (t : FileTree) (cwd : Location) (p : Path) : Except Cause String :=
  match t.readBytes cwd p with
  | .error e => .error e
  | .ok content =>
      match String.fromUTF8? content with
      | none => .error .notText
      | some text => .ok text

/-- The directory and the name that a path makes for something new; none if its end is no name. -/
def site (t : FileTree) (cwd : Location) (p : Path) (body : List String) :
    Except Cause (Location × Option String) :=
  match refusal? p with
  | some cause => .error cause
  | none =>
      match t.walk (origin cwd p) body.dropLast with
      | .error e => .error e
      | .ok loc =>
          if !t.isDirectory loc then .error .notDirectory
          else
            match body.getLast? with
            | none => .ok (loc, none)
            | some name =>
                if Path.isIdle name ∨ name = ".." then .ok (loc, none)
                else if nameBytes < name.utf8ByteSize then .error .nameTooLong
                else .ok (loc, some name)

def dropSlashes (body : List String) : List String :=
  (body.reverse.dropWhile fun piece => piece == "").reverse

def makeDirectory (t : FileTree) (cwd : Location) (p : Path) : Except Cause FileTree :=
  match t.site cwd p (dropSlashes p.body) with
  | .error e => .error e
  | .ok (_, none) => .error .exists
  | .ok (loc, some name) =>
      if h : t.get? loc = some .directory then
        if hn : t.get? (loc ++ [name]) = none then
          .ok (t.put loc name .directory h (by simp [hn]))
        else .error .exists
      else .error .notDirectory

/-- A directory that is there already is as good as one that is made. -/
def forgive (t : FileTree) (cwd : Location) (p : Path) (cause : Cause) : FileTree × Except Cause Unit :=
  if t.isFolder cwd p then (t, .ok ()) else (t, .error cause)

/-- The first path with the parents it needs, which come after it; what is made stays. -/
def makeChain (t : FileTree) (cwd : Location) : List Path → FileTree × Except Cause Unit
  | [] => (t, .ok ())
  | p :: parents =>
      match t.makeDirectory cwd p with
      | .ok t => (t, .ok ())
      | .error .noEntry =>
          match t.makeChain cwd parents with
          | (t, .error e) => (t, .error e)
          | (t, .ok ()) =>
              match t.makeDirectory cwd p with
              | .ok t => (t, .ok ())
              | .error e => t.forgive cwd p e
      | .error e => t.forgive cwd p e

def makeDirectories (t : FileTree) (cwd : Location) (p : Path) : FileTree × Except Cause Unit :=
  t.makeChain cwd p.ancestry

def writeFile (t : FileTree) (cwd : Location) (p : Path) (content : ByteArray) : Except Cause FileTree :=
  match t.site cwd p p.body with
  | .error e => .error e
  | .ok (_, none) => .error .isDirectory
  | .ok (loc, some name) =>
      if h : t.get? loc = some .directory then
        if hn : t.get? (loc ++ [name]) = some .directory then .error .isDirectory
        else .ok (t.put loc name (.file content) h hn)
      else .error .notDirectory

end ActionLookup.FileTree
