import ActionLookup.Json.Skip

/-!
Values of a JSON text that are asked for: strings that may be null, lists, and records.

A record is an object whose known keys each stand at most once, or a list of its fields in
order from the first on. A field that is left out keeps its default, an unknown key is skipped.
-/

namespace ActionLookup.Json

variable {α σ : Type}

abbrev Reader (α : Type) := List Char → Except Fault (α × List Char)

def wrongKind (wanted : Wanted) (cs : List Char) : Fault :=
  match cs with
  | [] => .before .endInValue []
  | '"' :: rest =>
      match readString rest with
      | .error f => f
      | .ok (s, rest) => .before (.wrongKind (.string s) wanted) rest
  | 'n' :: rest => afterWord ['u', 'l', 'l'] .null rest
  | 't' :: rest => afterWord ['r', 'u', 'e'] (.boolean true) rest
  | 'f' :: rest => afterWord ['a', 'l', 's', 'e'] (.boolean false) rest
  | '-' :: rest => ofNumber (readNumber true rest)
  | '[' :: _ => .before (.wrongKind .sequence wanted) cs
  | '\x7b' :: _ => .before (.wrongKind .map wanted) cs
  | c :: _ => if isDigit c then ofNumber (readNumber false cs) else .onByte .expectedValue cs
where
  afterWord (word : List Char) (found : Found) (rest : List Char) : Fault :=
    match readWord word rest with
    | .error f => f
    | .ok rest => .before (.wrongKind found wanted) rest
  ofNumber : Except Fault (Found × List Char) → Fault
    | .error f => f
    | .ok (found, rest) => .before (.wrongKind found wanted) rest

def readOptional : Reader (Option String) := fun cs =>
  match dropGap cs with
  | 'n' :: rest =>
      match readWord ['u', 'l', 'l'] rest with
      | .error f => .error f
      | .ok rest => .ok (none, rest)
  | '"' :: rest =>
      match readString rest with
      | .error f => .error f
      | .ok (s, rest) => .ok (some s, rest)
  | cs => .error (wrongKind .string cs)

inductive Next where
  | close (rest : List Char)
  | item (rest : List Char)

def nextElement (first : Bool) (cs : List Char) : Except Fault Next :=
  match dropGap cs with
  | [] => .error (.before .endInList [])
  | ']' :: rest => .ok (.close rest)
  | c :: rest =>
      if first then .ok (.item (c :: rest))
      else if c = ',' then
        match dropGap rest with
        | [] => .error (.before .endInValue [])
        | ']' :: rest => .error (.onByte .trailingComma (']' :: rest))
        | rest => .ok (.item rest)
      else .error (.onByte .expectedListEnd (c :: rest))

def nextKey (first : Bool) (cs : List Char) : Except Fault Next :=
  match dropGap cs with
  | [] => .error (.before .endInObject [])
  | '\x7d' :: rest => .ok (.close rest)
  | c :: rest =>
      if first then
        if c = '"' then .ok (.item rest) else .error (.onByte .keyNotString (c :: rest))
      else if c = ',' then
        match dropGap rest with
        | [] => .error (.before .endInValue [])
        | '"' :: rest => .ok (.item rest)
        | '\x7d' :: rest => .error (.onByte .trailingComma ('\x7d' :: rest))
        | rest => .error (.onByte .keyNotString rest)
      else .error (.onByte .expectedObjectEnd (c :: rest))

/-- The elements from here on, after the ones in `done`, last first. -/
def readElements (element : Reader α) : Nat → Bool → List α → Reader (List α)
  | 0, _, _, cs => .error (.before .endInList cs)
  | fuel + 1, first, done, cs =>
      match nextElement first cs with
      | .error f => .error f
      | .ok (.close rest) => .ok (done.reverse, rest)
      | .ok (.item rest) =>
          match element rest with
          | .error f => .error f
          | .ok (a, rest) => readElements element fuel false (a :: done) rest

def readList (fuel : Nat) (element : Reader α) : Reader (List α) := fun cs =>
  match dropGap cs with
  | '[' :: rest => readElements element fuel true [] rest
  | cs => .error (wrongKind .sequence cs)

structure FieldReader (σ : Type) where
  key : String
  read : Reader (σ → σ)

/-- The end of a record that is written as a list: there is no field for a further element. -/
def closeFields (record : σ) : Reader σ := fun cs =>
  match dropGap cs with
  | [] => .error (.before .endInList [])
  | ']' :: rest => .ok (record, rest)
  | ',' :: rest =>
      match dropGap rest with
      | ']' :: rest => .error (.onByte .trailingComma (']' :: rest))
      | rest => .error (.onByte .trailingCharacters rest)
  | cs => .error (.onByte .trailingCharacters cs)

def readFields : List (FieldReader σ) → Bool → σ → Reader σ
  | [], _, record, cs => closeFields record cs
  | field :: fields, first, record, cs =>
      match nextElement first cs with
      | .error f => .error f
      | .ok (.close rest) => .ok (record, rest)
      | .ok (.item rest) =>
          match field.read rest with
          | .error f => .error f
          | .ok (update, rest) => readFields fields false (update record) rest

/-- A key that stands twice is reported where its object could be closed. -/
def duplicateFault (key : String) (rest : List Char) : Fault :=
  match dropGap rest with
  | '\x7d' :: rest => .before (.duplicateField key) rest
  | rest => .before (.duplicateField key) rest

def readMembers (fields : List (FieldReader σ)) : Nat → Bool → List String → σ → Reader σ
  | 0, _, _, _, cs => .error (.before .endInObject cs)
  | fuel + 1, first, seen, record, cs =>
      match nextKey first cs with
      | .error f => .error f
      | .ok (.close rest) => .ok (record, rest)
      | .ok (.item rest) =>
          match readString rest with
          | .error f => .error f
          | .ok (key, rest) =>
              match fields.find? fun field => field.key == key with
              | none =>
                  match readColon rest with
                  | .error f => .error f
                  | .ok rest =>
                      match skipValue fuel rest with
                      | .error f => .error f
                      | .ok rest => readMembers fields fuel false seen record rest
              | some field =>
                  if key ∈ seen then .error (duplicateFault key rest)
                  else
                    match readColon rest with
                    | .error f => .error f
                    | .ok rest =>
                        match field.read rest with
                        | .error f => .error f
                        | .ok (update, rest) =>
                            readMembers fields fuel false (key :: seen) (update record) rest

def readRecord (fuel : Nat) (name : String) (fields : List (FieldReader σ)) (empty : σ) : Reader σ :=
  fun cs =>
    match dropGap cs with
    | '[' :: rest => readFields fields true empty rest
    | '\x7b' :: rest => readMembers fields fuel true [] empty rest
    | cs => .error (wrongKind (.record name) cs)

def readWhole (reader : Reader α) (cs : List Char) : Except Fault α :=
  match reader cs with
  | .error f => .error f
  | .ok (a, rest) =>
      match dropGap rest with
      | [] => .ok a
      | rest => .error (.onByte .trailingCharacters rest)

end ActionLookup.Json
