import ActionLookup.Accessor.Dispatch
import ActionLookup.Asset.Decode
import ActionLookup.Module
import ActionLookup.Schema.Shadowing
import ActionLookup.Schema.Validity

/-!
Generating the class of a schema. The settings are checked first, then the schema if it is to
be, then the bindings that shadow each other; writing the class cannot fail after that.
-/

namespace ActionLookup

inductive GenerationProblem where
  | asset (problem : AssetProblem)
  | schema (problem : SchemaProblem)
  | io (cause : FileTree.Cause)
  | write (path : String) (cause : FileTree.Cause)
  | underflow
  | settings (problem : SettingsProblem)
  deriving DecidableEq, Repr

namespace GenerationProblem

def message : GenerationProblem → String
  | .asset problem => s!"schema parse error: {problem.message}"
  | .schema problem => s!"schema error: {problem.message}"
  | .io cause => s!"IO error: {cause.message}"
  | .write path cause => s!"failed to write '{path}': {cause.message}"
  | .underflow => "indentation underflow: scope closed at depth 0"
  | .settings problem => s!"configuration error: {problem.message}"

def causes : GenerationProblem → List String
  | .asset problem => problem.message :: problem.causes
  | .schema problem => problem.message :: problem.causes
  | .io cause => [cause.message]
  | .write _ cause => [cause.message]
  | .underflow => []
  | .settings _ => []

end GenerationProblem

namespace Generation

def checkSettings (schema : Schema) (settings : Settings) : Except GenerationProblem Unit :=
  match settings.problem? with
  | some problem => .error (.settings problem)
  | none =>
      if settings.className = schema.className then .error (.settings (.classClash settings.className))
      else .ok ()

def checkSchema (schema : Schema) (settings : Settings) : Except GenerationProblem Unit :=
  if settings.validates then
    match schema.problem? with
    | some problem => .error (.schema problem)
    | none => .ok ()
  else .ok ()

/-- One shadowed binding is enough to refuse; else each of them is told. -/
def checkShadowed (schema : Schema) (settings : Settings) : Report GenerationProblem Unit :=
  match settings.duplicates with
  | .firstWins => .tell (schema.shadowed.map Event.unreachable)
  | .reject =>
      match schema.shadowed with
      | [] => .ok ()
      | s :: _ => .fail (.schema (.ambiguous s))

def accessorTexts (schema : Schema) (settings : Settings) : Except GenerationProblem (PerTag String) :=
  let start := Drafts.start settings.memberDepth settings.lineEnding
  let done := (Accessor.dispatch schema settings : Script Empty).run start
  if done.stopped then .error .underflow else .ok done.drafts.texts

def generate (schema : Schema) (settings : Settings) : Report GenerationProblem Module := do
  Report.ofExcept (checkSettings schema settings)
  Report.ofExcept (checkSchema schema settings)
  checkShadowed schema settings
  Report.tell schema.dispatchEvents
  let bodies ← Report.ofExcept (accessorTexts schema settings)
  Report.tell [.generated settings.fileName schema.name schema.groups.length schema.bindingCount]
  pure ⟨settings.fileName, bodies, Module.render schema settings bodies⟩

def generateFromText (text : String) (settings : Settings) : Report GenerationProblem Module := do
  let schema ← (Asset.schemaOfJson text none).mapError .asset
  generate schema settings

end Generation

end ActionLookup
