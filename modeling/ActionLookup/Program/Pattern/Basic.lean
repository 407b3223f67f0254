/-!
Regular expressions, as far as it takes to tell whether one can be used: which characters it
names and how deep it is. Which of two operators combines two sets of characters, how often a part
is repeated, and what a group is called play no role in that.
-/

namespace ActionLookup

namespace Pattern

structure Literal where
  char : Char
  isByte : Bool
  deriving DecidableEq, Repr

structure Switches where
  on : List Char
  off : List Char
  deriving DecidableEq, Repr

def Switches.none : Switches := ⟨[], []⟩

def Switches.state? (s : Switches) (letter : Char) : Option Bool :=
  if s.on.contains letter then some true
  else if s.off.contains letter then some false
  else Option.none

inductive Members where
  | one (literal : Literal)
  | range (first last : Literal)
  | named (isNegated : Bool)
  | shorthand (isNegated : Bool)
  | bracket (isNegated : Bool) (inner : Members)
  | union (parts : List Members)
  | combination (left right : Members)

end Pattern

inductive Pattern where
  | literal (literal : Pattern.Literal)
  | dot
  | edge
  | wordEdge
  | shorthand (isNegated : Bool)
  | bracket (isNegated : Bool) (inner : Pattern.Members)
  | switch (switches : Pattern.Switches)
  | repeated (operand : Pattern)
  | group (switches : Pattern.Switches) (inner : Pattern)
  | sequence (parts : List Pattern)
  | choice (branches : List Pattern)

namespace Pattern

/-- One part alone stands for itself, and none for nothing. -/
def level {α : Type} (parts : List α) : Nat := if parts.length ≤ 1 then 0 else 1

mutual

def Members.depth : Members → Nat
  | .one _ => 0
  | .range _ _ => 0
  | .named _ => 0
  | .shorthand _ => 0
  | .bracket _ inner => inner.depth + 1
  | .union parts => Members.greatestDepth parts + level parts
  | .combination left right => max left.depth right.depth + 1

def Members.greatestDepth : List Members → Nat
  | [] => 0
  | part :: rest => max part.depth (Members.greatestDepth rest)

end

mutual

def depth : Pattern → Nat
  | .literal _ => 0
  | .dot => 0
  | .edge => 0
  | .wordEdge => 0
  | .shorthand _ => 0
  | .bracket _ inner => inner.depth + 1
  | .switch _ => 0
  | .repeated operand => operand.depth + 1
  | .group _ inner => inner.depth + 1
  | .sequence parts => greatestDepth parts + level parts
  | .choice branches => greatestDepth branches + level branches

def greatestDepth : List Pattern → Nat
  | [] => 0
  | part :: rest => max part.depth (greatestDepth rest)

end

end Pattern

end ActionLookup
