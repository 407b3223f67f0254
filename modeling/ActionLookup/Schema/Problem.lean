import ActionLookup.Schema.Basic
import ActionLookup.Json.Fault
import ActionLookup.FileTree.Basic

namespace ActionLookup

inductive AssetProblem where
  | json (fault : Json.Located)
  | missingField (element field : String)
  | io (cause : FileTree.Cause)
  deriving DecidableEq, Repr

namespace AssetProblem

def message : AssetProblem → String
  | .json fault => s!"JSON parsing error: {fault.text}"
  | .missingField element field => s!"missing required field '{field}' on {element}"
  | .io cause => s!"IO error: {cause.message}"

def causes : AssetProblem → List String
  | .json fault => [fault.text]
  | .missingField .. => []
  | .io cause => [cause.message]

end AssetProblem

/-- A binding that a lookup by name alone never reaches, and the group whose binding it reaches instead. -/
structure Shadowed where
  name : String
  valueType : ValueType
  firstGroup : String
  group : String
  deriving DecidableEq, Repr

/-- An element is named by its kind and by words that say where it stands. -/
inductive SchemaProblem where
  | asset (problem : AssetProblem)
  | emptyName (kind place : String)
  | invalidIdentifier (kind name place : String)
  | duplicate (kind name scope : String)
  | ambiguous (shadowed : Shadowed)
  deriving DecidableEq, Repr

namespace SchemaProblem

def message : SchemaProblem → String
  | .asset problem => s!"parse error: {problem.message}"
  | .emptyName kind place => s!"{kind} name in {place} is empty"
  | .invalidIdentifier kind name place => s!"{kind} name '{name}' in {place} is not a valid identifier"
  | .duplicate kind name scope => s!"duplicate {kind} '{name}' in {scope}"
  | .ambiguous s =>
      s!"{s.valueType.text} binding '{s.name}' in group '{s.group}' is shadowed by group '{s.firstGroup}' in unqualified lookup"

def causes : SchemaProblem → List String
  | .asset problem => problem.message :: problem.causes
  | _ => []

end SchemaProblem

end ActionLookup
