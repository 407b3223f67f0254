import ActionLookup.Program.Directive

/-!
Which log lines are shown, and how. A filter is a list of directives with commas between them; of
the directives that pick an event the one that names it most closely decides.
-/

namespace ActionLookup

open Text

abbrev LogFilter := List Directive

namespace LogFilter

/-- An empty filter shows errors only. -/
def ofText? (text : String) : Option LogFilter :=
  match (pieces ',' text.toList).filter fun piece => !piece.isEmpty with
  | [] => some [⟨none, none, false, .error⟩]
  | directives => directives.mapM Directive.ofChars?

/-- Of two directives of one weight the later one decides. -/
def deciding (filter : LogFilter) (event : Event) : Option Directive :=
  (filter.filter fun d => d.picks event).foldl
    (fun best d =>
      match best with
      | none => some d
      | some b => if b.weight ≤ d.weight then some d else some b)
    none

def shows (filter : LogFilter) (event : Event) : Bool :=
  match filter.deciding event with
  | none => false
  | some d => decide ((Threshold.ofLevel event.level).rank ≤ d.threshold.rank)

end LogFilter

namespace Event

def safeChar (c : Char) : List Char :=
  if c = '\x07' then ['\\', 'x', '0', '7']
  else if c = '\x08' then ['\\', 'x', '0', '8']
  else if c = '\x0c' then ['\\', 'x', '0', 'c']
  else if c = '\x1b' then ['\\', 'x', '1', 'b']
  else if c = '\x7f' then ['\\', 'x', '7', 'f']
  else if 0x80 ≤ c.toNat ∧ c.toNat ≤ 0x9F then
    ['\\', 'u', '\x7b'] ++ Nat.toDigits 16 c.toNat ++ ['\x7d']
  else [c]

def paddedLevel (l : Level) : String :=
  String.ofList (List.replicate (5 - l.text.length) ' ') ++ l.text

def logLine (e : Event) : String :=
  s!"{paddedLevel e.level} {e.target}: {String.ofList (e.message.toList.flatMap safeChar)}"

end Event

end ActionLookup
