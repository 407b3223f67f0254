import ActionLookup.Json.Record

namespace ActionLookup.Asset

structure Action where
  name : Option String
  actionType : Option String
  expectedControlType : Option String
  deriving DecidableEq, Repr

structure ActionMap where
  name : Option String
  actions : List Action
  deriving DecidableEq, Repr

structure Document where
  name : Option String
  maps : List ActionMap
  deriving DecidableEq, Repr

open Json

def Action.empty : Action := ⟨none, none, none⟩

def ActionMap.empty : ActionMap := ⟨none, []⟩

def Document.empty : Document := ⟨none, []⟩

variable {α σ : Type}

def field (key : String) (reader : Reader α) (put : α → σ → σ) : FieldReader σ where
  key := key
  read := fun cs =>
    match reader cs with
    | .error f => .error f
    | .ok (a, rest) => .ok (put a, rest)

def actionFields : List (FieldReader Action) := [
  field "name" readOptional fun name action => { action with name },
  field "type" readOptional fun actionType action => { action with actionType },
  field "expectedControlType" readOptional fun expectedControlType action =>
    { action with expectedControlType }]

def readAction (fuel : Nat) : Reader Action :=
  readRecord fuel "ActionEntry" actionFields .empty

def mapFields (fuel : Nat) : List (FieldReader ActionMap) := [
  field "name" readOptional fun name map => { map with name },
  field "actions" (readList fuel (readAction fuel)) fun actions map => { map with actions }]

def readMap (fuel : Nat) : Reader ActionMap :=
  readRecord fuel "MapEntry" (mapFields fuel) .empty

def documentFields (fuel : Nat) : List (FieldReader Document) := [
  field "name" readOptional fun name document => { document with name },
  field "maps" (readList fuel (readMap fuel)) fun maps document => { document with maps }]

def readDocument (fuel : Nat) : Reader Document :=
  readRecord fuel "AssetEntry" (documentFields fuel) .empty

def Document.ofJson (text : String) : Except Fault Document :=
  readWhole (readDocument (text.length + 1)) text.toList

end ActionLookup.Asset
