import ActionLookup.Log
import ActionLookup.Json.Number
import ActionLookup.Program.Pattern.Reading
import ActionLookup.Program.Pattern.Support
import ActionLookup.Text.Pieces

/-!
Directives: which log events are shown, and from which level on.

A directive is written `target[span{field=value}]=level`, and each part may be left out. Its events
have the target's text in front of theirs, lie in the span, and have the field.

The parts are found in the directive without the blanks around it, and their text is then taken from
the same bytes of the directive with its blanks. So blanks in front move each part to the left.
-/

namespace ActionLookup.FieldValue

def isDecimal (cs : List Char) : Bool :=
  let fraction := Json.dropDigits cs
  let (digits, rest) := match fraction with
    | '.' :: rest => (cs.length - 1 - (Json.dropDigits rest).length, Json.dropDigits rest)
    | _ => (cs.length - fraction.length, fraction)
  digits ≠ 0 && match rest with
    | [] => true
    | e :: rest =>
        let exponent := (Json.exponentSign rest).2
        (e = 'e' || e = 'E') && Json.startsWithDigit exponent && (Json.dropDigits exponent).isEmpty

def isNumber (cs : List Char) : Bool :=
  isDecimal cs || ["inf", "infinity", "nan"].contains (String.ofList cs).toLower

/-- A number with a plus sign is one value more; any other number is an expression too. -/
def isValid (cs : List Char) : Bool :=
  (Pattern.ofChars? cs).any Pattern.isUsable ||
    match cs with
    | '+' :: rest => isNumber rest
    | _ => false

end ActionLookup.FieldValue

namespace ActionLookup

open Text

/-- The higher, the more is shown. -/
inductive Threshold where
  | off
  | error
  | warn
  | info
  | debug
  | trace
  deriving DecidableEq, Repr

namespace Threshold

def rank : Threshold → Nat
  | .off => 0
  | .error => 1
  | .warn => 2
  | .info => 3
  | .debug => 4
  | .trace => 5

def ofRank? : Nat → Option Threshold
  | 0 => some .off
  | 1 => some .error
  | 2 => some .warn
  | 3 => some .info
  | 4 => some .debug
  | 5 => some .trace
  | _ => none

theorem ofRank?_rank (t : Threshold) : ofRank? t.rank = some t := by
  cases t <;> rfl

def ofWord? (word : String) : Option Threshold :=
  match word.toLower with
  | "off" => some .off
  | "error" => some .error
  | "warn" => some .warn
  | "info" => some .info
  | "debug" => some .debug
  | "trace" => some .trace
  | _ => none

def digits? (cs : List Char) : Option (List Nat) :=
  match (match cs with
    | '+' :: rest => rest
    | _ => cs) with
  | [] => none
  | digits => digits.mapM Json.digit?

/-- A word in any case, or its rank. -/
def ofChars? (cs : List Char) : Option Threshold :=
  match digits? cs with
  | some digits => ofRank? (digits.foldl (fun n digit => n * 10 + digit) 0)
  | none => ofWord? (String.ofList cs)

def ofLevel : Level → Threshold
  | .debug => .debug
  | .info => .info
  | .warn => .warn

end Threshold

/-- What is left open holds for every event. -/
structure Directive where
  target : Option String
  field : Option String
  inSpan : Bool
  threshold : Threshold
  deriving DecidableEq, Repr

def Event.field : String := "message"

namespace Directive

/-- No event lies in a span. -/
def picks (d : Directive) (e : Event) : Bool :=
  !d.inSpan
    && d.target.all (fun target => target.toList.isPrefixOf e.target.toList)
    && d.field.all (fun field => field == Event.field)

/-- How closely it names its events: first by the target's length, then by the field. -/
def weight (d : Directive) : Nat :=
  2 * (match d.target with
    | none => 0
    | some target => target.utf8ByteSize + 1)
  + (if d.field.isSome then 1 else 0)

structure Scope where
  inSpan : Bool
  field : Option String

/-- A value can only be asked of a span's field. -/
def fieldOf (inSpan : Bool) (field : List Char) : Option Scope :=
  match (if field.isEmpty then [] else pieces '=' field) with
  | [] => none
  | [name] => some ⟨inSpan, some (String.ofList name)⟩
  | name :: value :: _ =>
      if FieldValue.isValid value then some ⟨true, some (String.ofList name)⟩ else none

/-- A directive as it is written, and without the blanks around it. -/
structure Writing where
  whole : List Char
  body : List Char

namespace Writing

def ofChars (cs : List Char) : Writing :=
  ⟨cs, ((cs.dropWhile isBlank).reverse.dropWhile isBlank).reverse⟩

def onward? (w : Writing) (rest : List Char) : Option (List Char) :=
  (cut? (byteCount w.body - byteCount rest) w.whole).map fun (_, onward) => onward

def part? (w : Writing) (part rest : List Char) : Option (List Char) :=
  (w.onward? (part ++ rest)).bind fun onward =>
    (cut? (byteCount part) onward).map fun (written, _) => written

end Writing

def scope? (w : Writing) (cs : List Char) : Option (Scope × List Char) :=
  let span := cs.takeWhile fun c => c ≠ ']' && c ≠ '\x7b'
  match cs.drop span.length with
  | ']' :: rest => some (⟨true, none⟩, rest)
  | '\x7b' :: rest =>
      let field := rest.takeWhile (· ≠ '\x7d')
      match rest.drop field.length with
      | '\x7d' :: ']' :: after =>
          (w.part? field ('\x7d' :: ']' :: after)).bind fun written =>
            (fieldOf (!span.isEmpty) written).map fun scope => (scope, after)
      | _ => none
  | _ => none

/-- After the equals sign; without a level everything is let through. -/
def level? (w : Writing) (rest : List Char) : Option Threshold :=
  (w.onward? rest).bind fun written =>
    if written.isEmpty then some .trace else Threshold.ofChars? written

/-- A level, or a target that lets everything through. -/
def alone (cs : List Char) : Directive :=
  match Threshold.ofChars? cs with
  | some threshold => ⟨none, none, false, threshold⟩
  | none => ⟨some (String.ofList cs), none, false, .trace⟩

def starts (c : Char) : Bool := Name.continues c || c == ':' || c == '-'

def target? (w : Writing) (head rest : List Char) : Option (Option String) :=
  if head.isEmpty then some none
  else (w.part? head rest).map fun written => some (String.ofList written)

/-- A scope may stand without a target, and a level may not. -/
def ofWriting? (w : Writing) : Option Directive :=
  let head := w.body.takeWhile fun c => c ≠ '=' && c ≠ '['
  let rest := w.body.drop head.length
  if !head.head?.all starts then none
  else
    match rest with
    | [] => if head.isEmpty then none else some (alone w.whole)
    | '=' :: text =>
        if head.isEmpty then none
        else
          match target? w head rest, level? w text with
          | some target, some threshold => some ⟨target, none, false, threshold⟩
          | _, _ => none
    | _ :: inner =>
        match target? w head rest, scope? w inner with
        | some target, some (scope, []) => some ⟨target, scope.field, scope.inSpan, .trace⟩
        | some target, some (scope, '=' :: text) =>
            (level? w text).map fun threshold => ⟨target, scope.field, scope.inSpan, threshold⟩
        | _, _ => none

def ofChars? (cs : List Char) : Option Directive := ofWriting? (.ofChars cs)

end Directive

end ActionLookup
