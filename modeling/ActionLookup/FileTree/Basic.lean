import ActionLookup.Path

/-!
Trees of directories and files. An entry lies at the list of names that leads to it from the
root; whatever holds an entry is a directory, and every change keeps it so.
-/

namespace ActionLookup.FileTree

inductive Cause where
  | noEntry
  | exists
  | notDirectory
  | isDirectory
  | nameTooLong
  | nulInName
  | notText
  | other (text : String)
  deriving DecidableEq, Repr

def Cause.message : Cause → String
  | .noEntry => "No such file or directory (os error 2)"
  | .exists => "File exists (os error 17)"
  | .notDirectory => "Not a directory (os error 20)"
  | .isDirectory => "Is a directory (os error 21)"
  | .nameTooLong => "File name too long (os error 36)"
  | .nulInName => "file name contained an unexpected NUL byte"
  | .notText => "stream did not contain valid UTF-8"
  | .other text => text

abbrev Location := List String

inductive Node where
  | directory
  | file (content : ByteArray)

instance : DecidableEq Node
  | .directory, .directory => .isTrue rfl
  | .directory, .file _ => .isFalse nofun
  | .file _, .directory => .isFalse nofun
  | .file x, .file y =>
      match ByteArray.decEq x y with
      | .isTrue h => .isTrue (congrArg Node.file h)
      | .isFalse h => .isFalse fun e => h (Node.file.inj e)

/-- The root is there without being listed. -/
def nodeAt (entries : List (Location × Node)) (loc : Location) : Option Node :=
  if loc = [] then some .directory else entries.lookup loc

def ParentsHold (entries : List (Location × Node)) : Prop :=
  ∀ (loc : Location) (name : String),
    nodeAt entries (loc ++ [name]) ≠ none → nodeAt entries loc = some .directory

theorem nodeAt_cons_self {entries : List (Location × Node)} {loc : Location} {node : Node}
    (h : loc ≠ []) : nodeAt ((loc, node) :: entries) loc = some node := by
  simp [nodeAt, h]

theorem nodeAt_cons_of_ne {entries : List (Location × Node)} {loc other : Location} {node : Node}
    (h : other ≠ loc) : nodeAt ((loc, node) :: entries) other = nodeAt entries other := by
  unfold nodeAt
  split
  · rfl
  · have hne : (other == loc) = false := by simpa using h
    rw [List.lookup_cons, hne]

theorem parentsHold_cons {entries : List (Location × Node)} {dir : Location} {name : String}
    {node : Node} (h : ParentsHold entries) (hd : nodeAt entries dir = some .directory)
    (hn : nodeAt entries (dir ++ [name]) ≠ some .directory) :
    ParentsHold ((dir ++ [name], node) :: entries) := by
  intro loc child hc
  have hlast : ∀ a b : Location, ∀ x y : String, a ++ [x] = b ++ [y] → a = b := fun a b x y e =>
    (List.append_inj' e rfl).1
  have hdir : dir ≠ dir ++ [name] := by
    intro e
    have := congrArg List.length e
    simp at this
  by_cases e : loc ++ [child] = dir ++ [name]
  · rw [hlast _ _ _ _ e, nodeAt_cons_of_ne hdir]
    exact hd
  · rw [nodeAt_cons_of_ne e] at hc
    have hl := h loc child hc
    by_cases e' : loc = dir ++ [name]
    · rw [e'] at hl
      exact absurd hl hn
    · rw [nodeAt_cons_of_ne e']
      exact hl

end FileTree

structure FileTree where
  entries : List (FileTree.Location × FileTree.Node)
  parents_hold : FileTree.ParentsHold entries

namespace FileTree

def empty : FileTree where
  entries := []
  parents_hold := by
    intro loc name h
    simp [nodeAt] at h

def get? (t : FileTree) (loc : Location) : Option Node := nodeAt t.entries loc

def isDirectory (t : FileTree) (loc : Location) : Bool := t.get? loc == some .directory

/-- Puts a file, or a directory where nothing is, into a directory. -/
def put (t : FileTree) (dir : Location) (name : String) (node : Node)
    (hd : t.get? dir = some .directory) (hn : t.get? (dir ++ [name]) ≠ some .directory) : FileTree where
  entries := (dir ++ [name], node) :: t.entries
  parents_hold := parentsHold_cons t.parents_hold hd hn

theorem get?_put_self (t : FileTree) (dir : Location) (name : String) (node : Node) (hd hn) :
    (t.put dir name node hd hn).get? (dir ++ [name]) = some node :=
  nodeAt_cons_self (by simp)

theorem get?_put_of_ne (t : FileTree) (dir : Location) (name : String) (node : Node) (hd hn)
    {loc : Location} (h : loc ≠ dir ++ [name]) : (t.put dir name node hd hn).get? loc = t.get? loc :=
  nodeAt_cons_of_ne h

def erase (t : FileTree) (loc : Location) : FileTree where
  entries := t.entries.filter fun entry => !loc.isPrefixOf entry.1
  parents_hold := by
    have key : ∀ other : Location, other ≠ [] →
        nodeAt (t.entries.filter fun entry => !loc.isPrefixOf entry.1) other =
          if loc.isPrefixOf other then none else nodeAt t.entries other := by
      intro other ho
      simp only [nodeAt, if_neg ho]
      induction t.entries with
      | nil => simp
      | cons e rest ih =>
          obtain ⟨l, n⟩ := e
          by_cases hl : loc.isPrefixOf l = true
          · rw [List.filter_cons_of_neg (by simp [hl]), ih]
            by_cases e : other = l
            · subst e; simp [hl]
            · have : (other == l) = false := by simpa using e
              simp [List.lookup_cons, this]
          · rw [List.filter_cons_of_pos (by simp [hl])]
            by_cases e : other = l
            · subst e; simp [hl]
            · have : (other == l) = false := by simpa using e
              simp only [List.lookup_cons, this, ih]
    intro p name h
    rw [key _ (by simp)] at h
    split at h
    · exact absurd rfl h
    · rename_i hp
      have hold := t.parents_hold p name h
      by_cases e : p = []
      · simp [nodeAt, e]
      · rw [key _ e]
        split
        · rename_i hp'
          have hp : loc <+: p := by simpa using hp'
          have hq : loc <+: p ++ [name] := hp.trans ⟨[name], rfl⟩
          simp_all
        · exact hold

def below (t : FileTree) (dir : Location) : List (Location × Node) :=
  (t.entries.filterMap fun entry =>
    if dir.isPrefixOf entry.1 && entry.1 != dir then
      (t.get? entry.1).map fun node => (entry.1.drop dir.length, node)
    else none).eraseDups

end FileTree

end ActionLookup
