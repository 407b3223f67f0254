import ActionLookup.Decimal.Shortest
import ActionLookup.Text.Pieces
import ActionLookup.Text.Visible

/-!
What can be wrong with a JSON text, and where.

A fault counts the bytes that lie behind it, so that a reader, which only knows what it has not
read yet, can say where it stands; `Fault.located` turns the count into a line and a column.
-/

namespace ActionLookup.Json

inductive Wanted where
  | string
  | sequence
  | record (name : String)
  deriving DecidableEq, Repr

def Wanted.text : Wanted → String
  | .string => "a string"
  | .sequence => "a sequence"
  | .record name => s!"struct {name}"

/-- The value that stands where another kind is wanted; a fraction is given by the bits of its double. -/
inductive Found where
  | null
  | boolean (b : Bool)
  | integer (n : Int)
  | fraction (bits : UInt64)
  | string (s : String)
  | sequence
  | map
  deriving DecidableEq, Repr

def Found.text : Found → String
  | .null => "null"
  | .boolean b => s!"boolean `{b}`"
  | .integer n => s!"integer `{n}`"
  | .fraction bits => s!"floating point `{Decimal.text bits}`"
  | .string s => s!"string {Text.visible s}"
  | .sequence => "sequence"
  | .map => "map"

inductive Complaint where
  | endInValue
  | endInList
  | endInObject
  | endInString
  | expectedValue
  | expectedWord
  | expectedColon
  | expectedListEnd
  | expectedObjectEnd
  | keyNotString
  | trailingComma
  | trailingCharacters
  | invalidNumber
  | numberOutOfRange
  | invalidEscape
  | unfinishedPair
  | loneSurrogate
  | controlCharacter
  | duplicateField (key : String)
  | wrongKind (found : Found) (wanted : Wanted)
  deriving DecidableEq, Repr

def Complaint.text : Complaint → String
  | .endInValue => "EOF while parsing a value"
  | .endInList => "EOF while parsing a list"
  | .endInObject => "EOF while parsing an object"
  | .endInString => "EOF while parsing a string"
  | .expectedValue => "expected value"
  | .expectedWord => "expected ident"
  | .expectedColon => "expected `:`"
  | .expectedListEnd => "expected `,` or `]`"
  | .expectedObjectEnd => "expected `,` or `\x7d`"
  | .keyNotString => "key must be a string"
  | .trailingComma => "trailing comma"
  | .trailingCharacters => "trailing characters"
  | .invalidNumber => "invalid number"
  | .numberOutOfRange => "number out of range"
  | .invalidEscape => "invalid escape"
  | .unfinishedPair => "unexpected end of hex escape"
  | .loneSurrogate => "lone leading surrogate in hex escape"
  | .controlCharacter => "control character (\\u0000-\\u001F) found while parsing a string"
  | .duplicateField key => s!"duplicate field `{key}`"
  | .wrongKind found wanted => s!"invalid type: {found.text}, expected {wanted.text}"

structure Fault where
  complaint : Complaint
  bytesBehind : Nat
  deriving DecidableEq, Repr

namespace Fault

def before (complaint : Complaint) (rest : List Char) : Fault := ⟨complaint, Text.byteCount rest⟩

/-- On the first byte of `rest`, which counts as read; at the end, there. -/
def onByte (complaint : Complaint) (rest : List Char) : Fault := ⟨complaint, Text.byteCount rest - 1⟩

end Fault

structure Place where
  line : Nat
  column : Nat
  deriving DecidableEq, Repr

def Place.start : Place := ⟨1, 0⟩

def Place.next (p : Place) (byte : UInt8) : Place :=
  if byte = 10 then ⟨p.line + 1, 0⟩ else ⟨p.line, p.column + 1⟩

def Place.after (bytes : List UInt8) : Place := bytes.foldl Place.next .start

def Fault.place (f : Fault) (text : String) : Place :=
  Place.after (text.toUTF8.toList.take (text.utf8ByteSize - f.bytesBehind))

structure Located where
  complaint : Complaint
  place : Place
  deriving DecidableEq, Repr

def Located.text (l : Located) : String :=
  s!"{l.complaint.text} at line {l.place.line} column {l.place.column}"

def Fault.located (f : Fault) (text : String) : Located := ⟨f.complaint, f.place text⟩

end ActionLookup.Json
