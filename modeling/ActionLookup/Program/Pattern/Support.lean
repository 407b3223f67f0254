import ActionLookup.Program.Pattern.Basic

/-!
Which regular expressions can be used.

There are no tables of Unicode properties or of case. So a text can be matched without regard to
case, and words and digits can be told apart, only where characters are ASCII; and what is switched
to ASCII may match nothing but whole characters.
-/

namespace ActionLookup.Pattern

structure Mode where
  foldsCase : Bool
  isUnicode : Bool
  deriving DecidableEq, Repr

namespace Mode

def start : Mode := ⟨false, true⟩

def switched (m : Mode) (s : Switches) : Mode :=
  ⟨(s.state? 'i').getD m.foldsCase, (s.state? 'u').getD m.isUnicode⟩

def takesLiteral (m : Mode) (l : Literal) : Bool :=
  if m.isUnicode then !m.foldsCase else !l.isByte || decide (l.char.toNat < 0x80)

/-- A set of ASCII characters is a set of bytes. -/
def takesMember (m : Mode) (l : Literal) : Bool :=
  if m.isUnicode then !m.foldsCase else decide (l.char.toNat < 0x80)

mutual

def takesMembers (m : Mode) : Members → Bool
  | .one l => m.takesMember l
  | .range first last => m.takesMember first && m.takesMember last
  | .named isNegated => if m.isUnicode then !m.foldsCase else !isNegated
  | .shorthand isNegated => !m.isUnicode && !isNegated
  | .bracket isNegated inner => (m.isUnicode || !isNegated) && m.takesMembers inner
  | .union parts => m.takesEach parts
  | .combination left right => m.takesMembers left && m.takesMembers right

def takesEach (m : Mode) : List Members → Bool
  | [] => true
  | part :: rest => m.takesMembers part && m.takesEach rest

end

def keptIf (m : Mode) (b : Bool) : Option Mode := if b then some m else none

mutual

/-- What is switched on behind an expression; nothing if it cannot be used. A group's switches end
with it. -/
def after? (m : Mode) : Pattern → Option Mode
  | .literal l => m.keptIf (m.takesLiteral l)
  | .dot => m.keptIf m.isUnicode
  | .edge => some m
  | .wordEdge => m.keptIf !m.isUnicode
  | .shorthand isNegated => m.keptIf (!m.isUnicode && !isNegated)
  | .bracket isNegated inner => m.keptIf ((m.isUnicode || !isNegated) && m.takesMembers inner)
  | .switch switches => some (m.switched switches)
  | .repeated operand => m.after? operand
  | .group switches inner => ((m.switched switches).after? inner).map fun _ => m
  | .sequence parts => m.afterEach? parts
  | .choice branches => m.afterEach? branches

def afterEach? (m : Mode) : List Pattern → Option Mode
  | [] => some m
  | part :: rest =>
      match m.after? part with
      | none => none
      | some m => m.afterEach? rest

end

end Mode

def depthLimit : Nat := 250

def isUsable (p : Pattern) : Bool := decide (p.depth ≤ depthLimit) && (Mode.start.after? p).isSome

end ActionLookup.Pattern
