import ActionLookup.Asset.Document
import ActionLookup.Log

/-!
Schemas from asset documents. Every part needs a name; an action whose control type is not one
of the value types is passed over.
-/

namespace ActionLookup.Asset

def mapElement (index : Nat) : String := s!"action map #{index}"

def actionElement (index : Nat) (mapName : String) : String := s!"action #{index} of map '{mapName}'"

def Action.expected (action : Action) : String := action.expectedControlType.getD ""

def Action.valueType (action : Action) : Option ValueType :=
  ValueType.ofControlType action.expected (action.actionType.getD "")

def decodeActions (mapName : String) : Nat → List Action → Report AssetProblem (List Binding)
  | _, [] => pure []
  | index, action :: rest =>
      match action.name with
      | none => .fail (.missingField (actionElement index mapName) "name")
      | some name =>
          match action.valueType with
          | some valueType => do
              let bindings ← decodeActions mapName (index + 1) rest
              pure (⟨name, valueType⟩ :: bindings)
          | none => do
              Report.tell [.skippedAction name mapName action.expected]
              decodeActions mapName (index + 1) rest

def decodeMaps : Nat → List ActionMap → Report AssetProblem (List Group)
  | _, [] => pure []
  | index, map :: rest =>
      match map.name with
      | none => .fail (.missingField (mapElement index) "name")
      | some name => do
          let bindings ← decodeActions name 0 map.actions
          let groups ← decodeMaps (index + 1) rest
          pure (⟨name, bindings⟩ :: groups)

/-- A name of blanks alone is as good as none. -/
def Document.schemaName (document : Document) (fallback : Option String) : Option String :=
  match document.name with
  | some name => if Name.isBlankText name then fallback else some name
  | none => fallback

def Document.decode (document : Document) (fallback : Option String) : Report AssetProblem Schema :=
  match document.schemaName fallback with
  | none => .fail (.missingField "asset" "name")
  | some name => do
      let groups ← decodeMaps 0 document.maps
      let schema : Schema := ⟨name, groups⟩
      Report.tell [.loadedAsset name groups.length schema.bindingCount]
      pure schema

/-- The schema of an asset text; `fallback` names it where the text does not. -/
def schemaOfJson (text : String) (fallback : Option String) : Report AssetProblem Schema :=
  match Document.ofJson text with
  | .error fault => .fail (.json (fault.located text))
  | .ok document => document.decode fallback

end ActionLookup.Asset
