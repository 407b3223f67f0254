import ActionLookup.Schema.Problem

/-!
Schemas whose names can be written as labels and members. `validate` walks the schema in
document order and stops at the first problem; `Valid` says which schemas have none.
-/

namespace ActionLookup

def schemaScope (schemaName : String) : String := s!"schema '{schemaName}'"

def groupPlace (schemaName : String) (index : Nat) : String :=
  s!"{schemaScope schemaName} (group #{index})"

def groupScope (groupName : String) : String := s!"group '{groupName}'"

def bindingPlace (groupName : String) (index : Nat) : String :=
  s!"{groupScope groupName} (binding #{index})"

/-- What is wrong with one name, given the names before it in its scope. -/
def nameProblem (kind place scope : String) (earlier : List String) (name : String) :
    Option SchemaProblem :=
  if Name.strip name = "" then some (.emptyName kind place)
  else if !Name.isIdentifier (Name.strip name) then some (.invalidIdentifier kind name scope)
  else if name ∈ earlier then some (.duplicate kind name scope)
  else none

def bindingProblem (groupName : String) : Nat → List String → List Binding → Option SchemaProblem
  | _, _, [] => none
  | index, earlier, b :: rest =>
      match nameProblem "binding" (bindingPlace groupName index) (groupScope groupName) earlier b.name with
      | some problem => some problem
      | none => bindingProblem groupName (index + 1) (b.name :: earlier) rest

def groupProblem (schemaName : String) : Nat → List String → List Group → Option SchemaProblem
  | _, _, [] => none
  | index, earlier, g :: rest =>
      match nameProblem "group" (groupPlace schemaName index) (schemaScope schemaName) earlier g.name with
      | some problem => some problem
      | none =>
          match bindingProblem g.name 0 [] g.bindings with
          | some problem => some problem
          | none => groupProblem schemaName (index + 1) (g.name :: earlier) rest

namespace Schema

def problem? (s : Schema) : Option SchemaProblem :=
  match nameProblem "schema" "asset" "asset" [] s.name with
  | some problem => some problem
  | none => groupProblem s.name 0 [] s.groups

def validate (s : Schema) : Except SchemaProblem Unit :=
  match s.problem? with
  | some problem => .error problem
  | none => .ok ()

end Schema

/-- Every name makes an identifier, and no two groups, and no two bindings of a group, share a name. -/
structure Schema.Valid (s : Schema) : Prop where
  name : Name.isIdentifier (Name.strip s.name) = true
  groups : ∀ g ∈ s.groups, Name.isIdentifier g.identifier = true
  bindings : ∀ g ∈ s.groups, ∀ b ∈ g.bindings, Name.isIdentifier b.identifier = true
  groups_distinct : (s.groups.map fun g => g.name).Nodup
  bindings_distinct : ∀ g ∈ s.groups, (g.bindings.map fun b => b.name).Nodup

theorem nameProblem_eq_none_iff {kind place scope : String} {earlier : List String} {name : String} :
    nameProblem kind place scope earlier name = none ↔
      Name.isIdentifier (Name.strip name) = true ∧ name ∉ earlier := by
  unfold nameProblem
  split
  · rename_i h
    rw [h]
    simp [Name.isIdentifier, Name.identifierChars]
  split
  · rename_i h
    simp at h
    simp [h]
  split
  · rename_i h
    simp [h]
  · rename_i h1 h2
    simp at h1
    simp [h1, h2]

end ActionLookup
