import ActionLookup.Asset.Decode

namespace ActionLookup.Synthetic

def groupName (g : Nat) : String := s!"Map{g}"

def bindingName (g b : Nat) : String := s!"Action{g}_{b}"

def binding (g b : Nat) : Binding := ⟨bindingName g b, if b % 2 = 0 then .vector2 else .boolean⟩

def group (bindings g : Nat) : Group := ⟨groupName g, (List.range bindings).map (binding g)⟩

def schema (groups bindings : Nat) : Schema :=
  ⟨"Bench Controls", (List.range groups).map (group bindings)⟩

def listText (items : List String) : String := "[" ++ ",".intercalate items ++ "]"

def memberText (key value : String) : String := "\"" ++ key ++ "\":" ++ value

def stringText (text : String) : String := "\"" ++ text ++ "\""

def objectText (members : List String) : String := "\x7b" ++ ",".intercalate members ++ "\x7d"

def actionText (b : Binding) : String :=
  objectText [memberText "name" (stringText b.name), memberText "type" (stringText "Value"),
    memberText "expectedControlType" (stringText b.valueType.controlType)]

def mapText (g : Group) : String :=
  objectText [memberText "name" (stringText g.name),
    memberText "actions" (listText (g.bindings.map actionText))]

/-- Names stand in it as they are, without escapes. -/
def assetText (s : Schema) : String :=
  objectText [memberText "name" (stringText s.name), memberText "maps" (listText (s.groups.map mapText))]

end ActionLookup.Synthetic
