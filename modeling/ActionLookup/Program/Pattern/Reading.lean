import ActionLookup.Json.Text
import ActionLookup.Name
import ActionLookup.Program.Pattern.Basic

/-!
Reading regular expressions.

Each reader returns what follows. An expression has no counted repetitions and no braces after an
escape: a directive has no room for a closing brace. Where blanks are ignored, so are comments,
from a hash to the end of the line.
-/

namespace ActionLookup.Pattern

open Text

def dropBlanks (inComment : Bool) : List Char → List Char
  | [] => []
  | c :: rest =>
      if inComment then dropBlanks (c ≠ '\n') rest
      else if isBlank c then dropBlanks false rest
      else if c = '#' then dropBlanks true rest
      else c :: rest

def next (ignoresBlanks : Bool) (cs : List Char) : List Char :=
  if ignoresBlanks then dropBlanks false cs else cs

/-- A look ahead passes over blanks and one hash, but not over a comment. -/
def peek (ignoresBlanks : Bool) (cs : List Char) : Option Char :=
  if ignoresBlanks then
    let ahead := match cs.dropWhile isBlank with
      | '#' :: rest => rest.dropWhile isBlank
      | ahead => ahead
    ahead.head? <|> cs.head?
  else cs.head?

def hexDigits (ignoresBlanks : Bool) : Nat → List Char → Option (List Nat × List Char)
  | 0, cs => some ([], cs)
  | count + 1, cs =>
      match next ignoresBlanks cs with
      | [] => none
      | c :: rest =>
          match Json.hexDigit? c, hexDigits ignoresBlanks count rest with
          | some value, some (values, rest) => some (value :: values, rest)
          | _, _ => none

def hexEscape (ignoresBlanks : Bool) (count : Nat) (cs : List Char) : Option (Pattern × List Char) :=
  match hexDigits ignoresBlanks count cs with
  | none => none
  | some (values, rest) =>
      let code := values.foldl (fun n value => n * 16 + value) 0
      if code.isValidChar then some (.literal ⟨Char.ofNat code, count == 2⟩, rest) else none

def isPunctuation (c : Char) : Bool := decide (c.toNat < 0x80) && !c.isAlphanum

def ofLetter? : Char → Option Pattern
  | 'a' => some (.literal ⟨'\x07', false⟩)
  | 'f' => some (.literal ⟨'\x0c', false⟩)
  | 'n' => some (.literal ⟨'\n', false⟩)
  | 'r' => some (.literal ⟨'\r', false⟩)
  | 't' => some (.literal ⟨'\t', false⟩)
  | 'v' => some (.literal ⟨'\x0b', false⟩)
  | 'd' => some (.shorthand false)
  | 's' => some (.shorthand false)
  | 'w' => some (.shorthand false)
  | 'D' => some (.shorthand true)
  | 'S' => some (.shorthand true)
  | 'W' => some (.shorthand true)
  | 'A' => some .edge
  | 'z' => some .edge
  | 'b' => some .wordEdge
  | 'B' => some .wordEdge
  | '<' => some .wordEdge
  | '>' => some .wordEdge
  | c => if isPunctuation c then some (.literal ⟨c, false⟩) else none

def escape? (ignoresBlanks : Bool) : List Char → Option (Pattern × List Char)
  | [] => none
  | 'x' :: rest => hexEscape ignoresBlanks 2 rest
  | 'u' :: rest => hexEscape ignoresBlanks 4 rest
  | 'U' :: rest => hexEscape ignoresBlanks 8 rest
  | c :: rest => (ofLetter? c).map fun p => (p, rest)

/-! Sets -/

def setNames : List String :=
  ["alnum", "alpha", "ascii", "blank", "cntrl", "digit", "graph", "lower", "print", "punct", "space", "upper",
    "word", "xdigit"]

def negation : List Char → Bool × List Char
  | '^' :: rest => (true, rest)
  | cs => (false, cs)

/-- A set known by name, such as `[:digit:]`, after its opening bracket. -/
def named? : List Char → Option (Members × List Char)
  | ':' :: rest =>
      let (isNegated, rest) := negation rest
      let name := rest.takeWhile (· ≠ ':')
      match rest.drop name.length with
      | ':' :: ']' :: rest =>
          if setNames.contains (String.ofList name) then some (.named isNegated, rest) else none
      | _ => none
  | _ => none

def item? (ignoresBlanks : Bool) : List Char → Option (Pattern × List Char)
  | [] => none
  | '\\' :: rest => escape? ignoresBlanks rest
  | c :: rest => some (.literal ⟨c, false⟩, rest)

def ofItem? : Pattern → Option Members
  | .literal l => some (.one l)
  | .shorthand isNegated => some (.shorthand isNegated)
  | _ => none

def range? : Pattern → Pattern → Option Members
  | .literal first, .literal last => if first.char ≤ last.char then some (.range first last) else none
  | _, _ => none

/-- A character or a range. A dash before the end of the set, or before another dash, makes no range. -/
def member? (ignoresBlanks : Bool) (cs : List Char) : Option (Members × List Char) :=
  match item? ignoresBlanks cs with
  | none => none
  | some (first, rest) =>
      let alone := fun rest => (ofItem? first).map fun member => (member, rest)
      match next ignoresBlanks rest with
      | '-' :: rest =>
          let ahead := peek ignoresBlanks rest
          if ahead = some ']' || ahead = some '-' then alone ('-' :: rest)
          else
            match item? ignoresBlanks (next ignoresBlanks rest) with
            | none => none
            | some (last, rest) => (range? first last).map fun member => (member, rest)
      | rest => alone rest

def combined : Option Members → List Members → Members
  | none, parts => .union parts.reverse
  | some left, parts => .combination left (.union parts.reverse)

def setHead (ignoresBlanks : Bool) (cs : List Char) : Bool × List Char :=
  negation (next ignoresBlanks cs)

/-- What is left to read of a set, with what it was combined from so far and, last part first, what
came since. At its start dashes stand for themselves, and so does a bracket that would close it. -/
def members? (ignoresBlanks : Bool) :
    Nat → Bool → Option Members → List Members → List Char → Option (Members × List Char)
  | 0, _, _, _, _ => none
  | fuel + 1, atStart, left, parts, cs =>
      match next ignoresBlanks cs with
      | [] => none
      | ']' :: rest =>
          if atStart && parts.isEmpty then
            members? ignoresBlanks fuel false left [.one ⟨']', false⟩] rest
          else some (combined left parts, rest)
      | '[' :: rest =>
          match named? rest with
          | some (part, rest) => members? ignoresBlanks fuel false left (part :: parts) rest
          | none =>
              let (isNegated, inside) := setHead ignoresBlanks rest
              match members? ignoresBlanks fuel true none [] inside with
              | none => none
              | some (inner, rest) =>
                  members? ignoresBlanks fuel false left (.bracket isNegated inner :: parts) rest
      | '&' :: '&' :: rest => members? ignoresBlanks fuel false (some (combined left parts)) [] rest
      | '~' :: '~' :: rest => members? ignoresBlanks fuel false (some (combined left parts)) [] rest
      | c :: rest =>
          if c = '-' && atStart then
            members? ignoresBlanks fuel true left (.one ⟨'-', false⟩ :: parts) rest
          else if c = '-' && rest.head? = some '-' then
            members? ignoresBlanks fuel false (some (combined left parts)) [] rest.tail
          else
            match member? ignoresBlanks (c :: rest) with
            | none => none
            | some (part, rest) => members? ignoresBlanks fuel false left (part :: parts) rest

def set? (ignoresBlanks : Bool) (cs : List Char) : Option (Pattern × List Char) :=
  let (isNegated, inside) := setHead ignoresBlanks cs
  (members? ignoresBlanks (inside.length + 1) true none [] inside).map fun (inner, rest) =>
    (.bracket isNegated inner, rest)

/-! Groups -/

inductive GroupHead where
  | switch (switches : Switches)
  | group (switches : Switches)
  | capture (name : Option String)

def nameContinues (c : Char) : Bool := Name.continues c || c = '.' || c = '[' || c = ']'

def isGroupName : List Char → Bool
  | [] => false
  | c :: rest => Name.starts c && rest.all nameContinues

def name? (cs : List Char) : Option (GroupHead × List Char) :=
  let name := cs.takeWhile (· ≠ '>')
  match cs.drop name.length with
  | [] => none
  | _ :: rest => if isGroupName name then some (.capture (some (String.ofList name)), rest) else none

def switchLetters : List Char := ['i', 'm', 's', 'U', 'u', 'R', 'x']

/-- Each letter at most once; what follows a dash is switched off. -/
def switches? (cs : List Char) : Option Switches :=
  let on := cs.takeWhile (· ≠ '-')
  match cs.drop on.length with
  | [] => if on.all switchLetters.contains && on.Nodup then some ⟨on, []⟩ else none
  | _ :: off =>
      if !off.isEmpty && (on ++ off).all switchLetters.contains && (on ++ off).Nodup then some ⟨on, off⟩
      else none

/-- After the question mark; switches that stand alone hold up to the end of the group around them. -/
def switch? (cs : List Char) : Option (GroupHead × List Char) :=
  let letters := cs.takeWhile fun c => c ≠ ':' && c ≠ ')'
  match cs.drop letters.length, switches? letters with
  | ':' :: rest, some switches => some (.group switches, rest)
  | ')' :: rest, some switches => if letters.isEmpty then none else some (.switch switches, rest)
  | _, _ => none

def groupHead? : List Char → Option (GroupHead × List Char)
  | '?' :: 'P' :: '<' :: rest => name? rest
  | '?' :: '<' :: rest => name? rest
  | '?' :: rest => switch? rest
  | cs => some (.capture none, cs)

/-! Expressions -/

def repeatLast? : List Pattern → Option (List Pattern)
  | [] => none
  | .switch _ :: _ => none
  | operand :: parts => some (.repeated operand :: parts)

/-- A question mark right behind a repetition belongs to it. -/
def dropLazy : List Char → List Char
  | '?' :: rest => rest
  | cs => cs

def simple? (ignoresBlanks : Bool) : List Char → Option (Pattern × List Char)
  | [] => none
  | '[' :: rest => set? ignoresBlanks rest
  | '\\' :: rest => escape? ignoresBlanks rest
  | '\x7b' :: _ => none
  | '.' :: rest => some (.dot, rest)
  | '^' :: rest => some (.edge, rest)
  | '$' :: rest => some (.edge, rest)
  | c :: rest => some (.literal ⟨c, false⟩, rest)

/-- An expression, the names of groups up to its end, and what follows. -/
abbrev Read := Pattern × List String × List Char

/-- The branches and the parts of the last of them are kept in reverse. It ends with a
parenthesis that closes more than was opened. -/
def read? : Nat → Bool → List String → List Pattern → List Pattern → List Char → Option Read
  | 0, _, _, _, _, _ => none
  | fuel + 1, ignoresBlanks, names, branches, parts, cs =>
      let finished := fun rest => (Pattern.choice (.sequence parts.reverse :: branches).reverse, names, rest)
      match next ignoresBlanks cs with
      | [] => some (finished [])
      | ')' :: rest => some (finished (')' :: rest))
      | '|' :: rest => read? fuel ignoresBlanks names (.sequence parts.reverse :: branches) [] rest
      | '(' :: rest =>
          let within := fun switches names rest =>
            match read? fuel ((Switches.state? switches 'x').getD ignoresBlanks) names [] [] rest with
            | some (inner, names, ')' :: rest) =>
                read? fuel ignoresBlanks names branches (.group switches inner :: parts) rest
            | _ => none
          match groupHead? (next ignoresBlanks rest) with
          | none => none
          | some (.switch switches, rest) =>
              read? fuel ((switches.state? 'x').getD ignoresBlanks) names branches
                (.switch switches :: parts) rest
          | some (.group switches, rest) => within switches names rest
          | some (.capture none, rest) => within .none names rest
          | some (.capture (some name), rest) =>
              if names.contains name then none else within .none (name :: names) rest
      | c :: rest =>
          if c = '*' || c = '+' || c = '?' then
            match repeatLast? parts with
            | none => none
            | some parts => read? fuel ignoresBlanks names branches parts (dropLazy rest)
          else
            match simple? ignoresBlanks (c :: rest) with
            | none => none
            | some (part, rest) => read? fuel ignoresBlanks names branches (part :: parts) rest

def ofChars? (cs : List Char) : Option Pattern :=
  match read? (cs.length + 1) false [] [] [] cs with
  | some (p, _, []) => some p
  | _ => none

end ActionLookup.Pattern
