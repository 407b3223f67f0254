import ActionLookup.Text.Pieces

/-!
Paths as they are written. Nothing is normalized: a path keeps its repeated slashes and its
dots, and only looking it up gives them a meaning. Every path is a text here; one with bytes that are
no UTF-8, whose file has no stem to name an asset after, is left out.
-/

namespace ActionLookup

open Text

/-- Where a path starts: at the root, at a leading dot, or with its first name. -/
inductive Anchor where
  | root
  | here
  | bare
  deriving DecidableEq, Repr

/-- The body holds what stands between the slashes, after the anchor and its slash. -/
structure Path where
  anchor : Anchor
  body : List String
  deriving DecidableEq, Repr

namespace Path

def ofText (text : String) : Path :=
  match (pieces '/' text.toList).map String.ofList with
  | [] => ⟨.bare, []⟩
  | [piece] => if piece = "." then ⟨.here, []⟩ else ⟨.bare, [piece]⟩
  | piece :: more =>
      if piece = "" then ⟨.root, more⟩
      else if piece = "." then ⟨.here, more⟩
      else ⟨.bare, piece :: more⟩

def bodyText (p : Path) : String := String.ofList (join '/' (p.body.map String.toList))

def text (p : Path) : String :=
  match p.anchor with
  | .root => "/" ++ p.bodyText
  | .here => if p.body = [] then "." else "./" ++ p.bodyText
  | .bare => p.bodyText

def isIdle (piece : String) : Bool := piece == "" || piece == "."

def dropIdleEnd (body : List String) : List String := (body.reverse.dropWhile isIdle).reverse

/-- The path without its last component, if it has one; the root has none. -/
def parent? (p : Path) : Option Path :=
  match dropIdleEnd p.body with
  | [] =>
      match p.anchor with
      | .root => none
      | .here => some ⟨.bare, []⟩
      | .bare => none
  | kept => some { p with body := dropIdleEnd kept.dropLast }

def chain : Nat → Path → List Path
  | 0, _ => []
  | fuel + 1, p =>
      if p.text = "" then []
      else
        p :: match p.parent? with
          | none => []
          | some parent => chain fuel parent

/-- The path and all that lie above it, from the path up. -/
def ancestry (p : Path) : List Path := chain (p.body.length + 2) p

/-- A name inside a directory: one slash is put between them, if there is none. -/
def child (p : Path) (name : String) : Path :=
  if p.body.getLast? = some "" then { p with body := p.body.dropLast ++ [name] }
  else { p with body := p.body ++ [name] }

def components (p : Path) : List String :=
  match p.anchor with
  | .here => "." :: p.body
  | _ => if p.body = [] then [""] else p.body

/-- A path from a directory on. It takes the directory's place if it starts at the root. -/
def push (p q : Path) : Path :=
  if q.anchor = .root ∨ p.text = "" then q
  else if p.body.getLast? = some "" then { p with body := p.body.dropLast ++ q.components }
  else { p with body := p.body ++ q.components }

def fileName? (p : Path) : Option String :=
  match (dropIdleEnd p.body).getLast? with
  | none => none
  | some name => if name = ".." then none else some name

/-- The name up to its last dot; a dot in front does not count. -/
def stemOf (name : String) : String :=
  match (pieces '.' name.toList).reverse with
  | [] => name
  | [_] => name
  | _ :: front =>
      let stem := String.ofList (join '.' front.reverse)
      if stem = "" then name else stem

def stem? (p : Path) : Option String := p.fileName?.map stemOf

theorem text_ofText (s : String) : (ofText s).text = s := by
  have hs := join_pieces '/' s.toList
  have hb : ∀ ps : List (List Char), (ps.map String.ofList).map String.toList = ps := by
    intro ps
    induction ps with
    | nil => rfl
    | cons q qs ih => simp only [List.map_cons, ih, String.toList_ofList]
  unfold ofText
  cases hp : pieces '/' s.toList with
  | nil => exact absurd hp (pieces_ne_nil _ _)
  | cons p ps =>
      rw [hp] at hs
      cases ps with
      | nil =>
          have : s = String.ofList p := by rw [← String.ofList_toList (s := s), ← hs]; rfl
          simp only [List.map_cons, List.map_nil]
          split
          · rename_i h; simp [text, this, h]
          · simp [text, bodyText, join, this]
      | cons q qs =>
          rw [join_cons_of_ne_nil _ _ (by simp)] at hs
          have hbody : ∀ a, (Path.mk a (((q :: qs)).map String.ofList)).bodyText
              = String.ofList (join '/' (q :: qs)) := by
            intro a; rw [bodyText, hb]
          have hs' : s = String.ofList (p ++ '/' :: join '/' (q :: qs)) := by
            rw [hs, String.ofList_toList]
          simp only [List.map_cons]
          split
          · rename_i h
            have hp0 : p = [] := by simpa using congrArg String.toList h
            show "/" ++ bodyText _ = s
            rw [← List.map_cons, hbody, hs', hp0]
            apply String.ext
            simp
          · split
            · rename_i h
              have hp0 : p = ['.'] := by simpa using congrArg String.toList h
              simp only [text]
              rw [if_neg (by simp), ← List.map_cons, hbody, hs', hp0]
              apply String.ext
              simp
            · show bodyText _ = s
              rw [bodyText, ← List.map_cons, ← List.map_cons, hb, join_cons_of_ne_nil _ _ (by simp), hs']

end Path

end ActionLookup
