import ActionLookup.Accessor.Script
import ActionLookup.Accessor.Section
import ActionLookup.Text.Quoted

/-!
The script that writes the four accessors of a schema. Each accessor wakes the live actions,
switches on the names it is given, returns what the binding reads, and falls back to rest.
-/

namespace ActionLookup

open Text

namespace Accessor

def openBrace : String := "\x7b"

def closeBrace : String := "\x7d"

def signature (settings : Settings) : Tag → String
  | ⟨.vector2, true⟩ =>
      s!"public static Vector2 {settings.vectorFunction}(string actionName, string mapName)"
  | ⟨.vector2, false⟩ => s!"public static Vector2 {settings.vectorFunction}(string actionName)"
  | ⟨.boolean, true⟩ =>
      s!"public static bool {settings.buttonFunction}(string actionName, bool held, string mapName)"
  | ⟨.boolean, false⟩ => s!"public static bool {settings.buttonFunction}(string actionName, bool held)"

def switchOnAction : String := "switch(actionName)"

def outerSwitch (tag : Tag) : String := if tag.qualified then "switch(mapName)" else switchOnAction

/-- Names are labels as they are written. -/
def label (name : String) : String := s!"case {quote name}:"

def target (holder : String) (g : Group) (b : Binding) : String :=
  s!"{holder}.{g.identifier}.{b.identifier}"

/-- A button is read as triggered when it counts how long it is held. -/
def returnLive : ValueType → String → String
  | .vector2, target => s!"return {target}.ReadValue<Vector2>();"
  | .boolean, target => s!"return held ? {target}.triggered : {target}.ReadValue<bool>();"

def returnRest : ValueType → String
  | .vector2 => "return new Vector2(0f, 0f);"
  | .boolean => "return false;"

variable {ν : Type}

def defaultArm (pattern : TagPattern) : Script ν :=
  .both (.line pattern "default:") (.scope pattern (.line pattern "break;"))

/-- An arm that does not lead is only in the qualified accessor of its type. -/
def armPattern (arm : Arm) : TagPattern :=
  if arm.leads then .ofType arm.binding.valueType else .exact ⟨arm.binding.valueType, true⟩

def armLine (arm : Arm) (text : String) : Script ν :=
  if arm.leads then .lineToType arm.binding.valueType text else .line (armPattern arm) text

def arm (holder : String) (g : Group) (a : Arm) : Script ν :=
  .both (armLine a (label a.binding.name))
    (.scope (armPattern a)
      (armLine a (returnLive a.binding.valueType (target holder g a.binding))))

def group (holder : String) (s : Section) : Script ν :=
  let qualified := TagPattern.ofQualified true
  .both (.lineToQualified true (label s.group.name))
    (.scope qualified (.all [
      .lineToQualified true switchOnAction,
      .lineToQualified true openBrace,
      .scope qualified (.both (.all (s.arms.map (arm holder s.group))) (defaultArm qualified)),
      .lineToQualified true closeBrace,
      .lineToQualified true "break;"]))

def dispatch (schema : Schema) (settings : Settings) : Script ν :=
  let every := TagPattern.all
  .all [
    .step (.write every (signature settings)),
    .lineToAll openBrace,
    .scope every (.all [
      .lineToAll s!"{schema.holder}.Enable();",
      .step (.blank every),
      .step (.write every outerSwitch),
      .lineToAll openBrace,
      .scope every (.both (.all (schema.sections.map (group schema.holder))) (defaultArm every)),
      .lineToAll closeBrace,
      .lineToAll s!"{schema.holder}.Disable();",
      .step (.write every fun tag => returnRest tag.valueType)]),
    .lineToAll closeBrace]

end Accessor

end ActionLookup
