import ActionLookup.Json.Text
import ActionLookup.Json.Number

/-!
Values of a JSON text that nobody asks for. Any value is passed over, however deep; `fuel`
bounds the characters that it may take, and the length of the text is always enough.
-/

namespace ActionLookup.Json

def isGap (c : Char) : Bool := c == ' ' || c == '\n' || c == '\t' || c == '\r'

def dropGap (cs : List Char) : List Char := cs.dropWhile isGap

def readWord : List Char → List Char → Except Fault (List Char)
  | [], cs => .ok cs
  | _ :: _, [] => .error (.before .endInValue [])
  | letter :: word, c :: rest =>
      if c = letter then readWord word rest else .error (.onByte .expectedWord (c :: rest))

def readColon (cs : List Char) : Except Fault (List Char) :=
  match dropGap cs with
  | [] => .error (.before .endInObject [])
  | ':' :: rest => .ok rest
  | cs => .error (.onByte .expectedColon cs)

def skipKey (cs : List Char) : Except Fault (List Char) :=
  match dropGap cs with
  | [] => .error (.before .endInObject [])
  | '"' :: rest =>
      match skipString rest with
      | .error f => .error f
      | .ok rest => readColon rest
  | cs => .error (.onByte .keyNotString cs)

mutual

def skipValue : Nat → List Char → Except Fault (List Char)
  | 0, cs => .error (.before .endInValue cs)
  | fuel + 1, cs =>
      match dropGap cs with
      | [] => .error (.before .endInValue [])
      | '"' :: rest => skipString rest
      | 'n' :: rest => readWord ['u', 'l', 'l'] rest
      | 't' :: rest => readWord ['r', 'u', 'e'] rest
      | 'f' :: rest => readWord ['a', 'l', 's', 'e'] rest
      | '-' :: rest => skipNumber rest
      | '[' :: rest =>
          match dropGap rest with
          | [] => .error (.before .endInList [])
          | ']' :: rest => .ok rest
          | rest =>
              match skipValue fuel rest with
              | .error f => .error f
              | .ok rest => skipElements fuel rest
      | '\x7b' :: rest =>
          match dropGap rest with
          | [] => .error (.before .endInObject [])
          | '\x7d' :: rest => .ok rest
          | rest =>
              match skipKey rest with
              | .error f => .error f
              | .ok rest =>
                  match skipValue fuel rest with
                  | .error f => .error f
                  | .ok rest => skipMembers fuel rest
      | c :: rest => if isDigit c then skipNumber (c :: rest) else .error (.onByte .expectedValue (c :: rest))

def skipElements : Nat → List Char → Except Fault (List Char)
  | 0, cs => .error (.before .endInList cs)
  | fuel + 1, cs =>
      match dropGap cs with
      | [] => .error (.before .endInList [])
      | ']' :: rest => .ok rest
      | ',' :: rest =>
          match skipValue fuel rest with
          | .error f => .error f
          | .ok rest => skipElements fuel rest
      | cs => .error (.onByte .expectedListEnd cs)

def skipMembers : Nat → List Char → Except Fault (List Char)
  | 0, cs => .error (.before .endInObject cs)
  | fuel + 1, cs =>
      match dropGap cs with
      | [] => .error (.before .endInObject [])
      | '\x7d' :: rest => .ok rest
      | ',' :: rest =>
          match skipKey rest with
          | .error f => .error f
          | .ok rest =>
              match skipValue fuel rest with
              | .error f => .error f
              | .ok rest => skipMembers fuel rest
      | cs => .error (.onByte .expectedObjectEnd cs)

end

end ActionLookup.Json
