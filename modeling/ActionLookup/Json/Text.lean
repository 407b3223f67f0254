import ActionLookup.Json.Fault

/-!
Strings of a JSON text.

A string is read either to be kept or to be skipped. In a skipped one the code units after
`\u` are not paired, and a raw control character is reported one byte earlier.
-/

namespace ActionLookup.Json

inductive Mode where
  | kept
  | skipped
  deriving DecidableEq, Repr

def hexDigit? (c : Char) : Option Nat :=
  if '0' ≤ c ∧ c ≤ '9' then some (c.toNat - '0'.toNat)
  else if 'a' ≤ c ∧ c ≤ 'f' then some (c.toNat - 'a'.toNat + 10)
  else if 'A' ≤ c ∧ c ≤ 'F' then some (c.toNat - 'A'.toNat + 10)
  else none

def hexValue (a b c d : Char) : Option Nat :=
  match hexDigit? a, hexDigit? b, hexDigit? c, hexDigit? d with
  | some a, some b, some c, some d => some (((a * 16 + b) * 16 + c) * 16 + d)
  | _, _, _, _ => none

/-- The next four bytes are judged together; where there are fewer, the text ends in a string. -/
def codeUnit (cs : List Char) : Except Fault Nat :=
  if Text.byteCount cs < 4 then .error (.before .endInString [])
  else
    match cs with
    | a :: b :: c :: d :: _ =>
        match hexValue a b c d with
        | some n => .ok n
        | none => .error ⟨.invalidEscape, Text.byteCount cs - 4⟩
    | _ => .error ⟨.invalidEscape, Text.byteCount cs - 4⟩

def isLeading (n : Nat) : Bool := decide (0xD800 ≤ n) && decide (n ≤ 0xDBFF)

def isTrailing (n : Nat) : Bool := decide (0xDC00 ≤ n) && decide (n ≤ 0xDFFF)

def pairChar (leading trailing : Nat) : Char :=
  Char.ofNat ((leading - 0xD800) * 0x400 + (trailing - 0xDC00) + 0x10000)

def trailingUnit (cs : List Char) : Except Fault Nat :=
  match cs with
  | [] => .error (.before .endInString [])
  | '\\' :: [] => .error (.before .endInString [])
  | '\\' :: 'u' :: rest =>
      match codeUnit rest with
      | .error f => .error f
      | .ok n => if isTrailing n then .ok n else .error (.before .loneSurrogate (rest.drop 4))
  | '\\' :: rest => .error (.onByte .unfinishedPair rest)
  | cs => .error (.onByte .unfinishedPair cs)

/-- What follows `\u`: the characters that it stands for, and how many it takes. -/
def unicodeEscape (mode : Mode) (cs : List Char) : Except Fault (List Char × Nat) :=
  match codeUnit cs with
  | .error f => .error f
  | .ok n =>
      match mode with
      | .skipped => .ok ([], 4)
      | .kept =>
          if isTrailing n then .error (.before .loneSurrogate (cs.drop 4))
          else if isLeading n then
            match trailingUnit (cs.drop 4) with
            | .error f => .error f
            | .ok m => .ok ([pairChar n m], 10)
          else .ok ([Char.ofNat n], 4)

def simpleEscape? : Char → Option Char
  | '"' => some '"'
  | '\\' => some '\\'
  | '/' => some '/'
  | 'b' => some '\x08'
  | 'f' => some '\x0c'
  | 'n' => some '\n'
  | 'r' => some '\r'
  | 't' => some '\t'
  | _ => none

def escapeSequence (mode : Mode) (cs : List Char) : Except Fault (List Char × Nat) :=
  match cs with
  | [] => .error (.before .endInString [])
  | c :: rest =>
      match simpleEscape? c with
      | some d => .ok ([d], 1)
      | none =>
          if c = 'u' then
            match unicodeEscape mode rest with
            | .error f => .error f
            | .ok (ds, n) => .ok (ds, n + 1)
          else .error (.onByte .invalidEscape cs)

def controlFault (mode : Mode) (cs : List Char) : Fault :=
  match mode with
  | .kept => .onByte .controlCharacter cs
  | .skipped => .before .controlCharacter cs

/-- Reads on after the opening quote; the first `taken` characters belong to an escape already read. -/
def stringTail (mode : Mode) : Nat → List Char → Except Fault (List Char × List Char)
  | _, [] => .error (.before .endInString [])
  | taken + 1, _ :: rest => stringTail mode taken rest
  | 0, c :: rest =>
      if c = '"' then .ok ([], rest)
      else if c = '\\' then
        match escapeSequence mode rest with
        | .error f => .error f
        | .ok (ds, n) =>
            match stringTail mode n rest with
            | .error f => .error f
            | .ok (text, rest) => .ok (ds ++ text, rest)
      else if c.toNat < 0x20 then .error (controlFault mode (c :: rest))
      else
        match stringTail mode 0 rest with
        | .error f => .error f
        | .ok (text, rest) => .ok (c :: text, rest)

def readString (cs : List Char) : Except Fault (String × List Char) :=
  match stringTail .kept 0 cs with
  | .error f => .error f
  | .ok (text, rest) => .ok (String.ofList text, rest)

def skipString (cs : List Char) : Except Fault (List Char) :=
  match stringTail .skipped 0 cs with
  | .error f => .error f
  | .ok (_, rest) => .ok rest

end ActionLookup.Json
