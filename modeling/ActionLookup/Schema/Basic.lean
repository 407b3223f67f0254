import ActionLookup.Name

namespace ActionLookup

inductive ValueType where
  | vector2
  | boolean
  deriving DecidableEq, Repr

namespace ValueType

def all : List ValueType := [.vector2, .boolean]

theorem mem_all (t : ValueType) : t ∈ all := by
  cases t <;> simp [all]

def text : ValueType → String
  | .vector2 => "Vector2"
  | .boolean => "Boolean"

def controlType : ValueType → String
  | .vector2 => "Vector2"
  | .boolean => "Button"

/-- An action says its type by its expected control type, and only without one by being a button. -/
def ofControlType (expected actionType : String) : Option ValueType :=
  if expected = "Button" then some .boolean
  else if expected = "Vector2" then some .vector2
  else if expected = "" ∧ actionType = "Button" then some .boolean
  else none

theorem ofControlType_controlType (t : ValueType) (actionType : String) :
    ofControlType t.controlType actionType = some t := by
  cases t <;> simp [controlType, ofControlType]

end ValueType

/-- The name is a dispatch key as it is written. -/
structure Binding where
  name : String
  valueType : ValueType
  deriving DecidableEq, Repr

def Binding.identifier (b : Binding) : String := Name.strip b.name

/-- Two bindings with one key answer the same lookup by name alone. -/
def Binding.key (b : Binding) : ValueType × String := (b.valueType, b.name)

structure Group where
  name : String
  bindings : List Binding
  deriving DecidableEq, Repr

def Group.identifier (g : Group) : String := Name.strip g.name

def Group.ofType (g : Group) (t : ValueType) : List Binding :=
  g.bindings.filter fun b => b.valueType = t

structure Schema where
  name : String
  groups : List Group
  deriving DecidableEq, Repr

namespace Schema

def bindingCount (s : Schema) : Nat := s.groups.foldr (fun g count => g.bindings.length + count) 0

/-- The class that wraps the asset. -/
def className (s : Schema) : String := Name.strip s.name

/-- The field that holds the live actions. -/
def holder (s : Schema) : String := Name.lowercase (Name.strip s.name)

def placed (s : Schema) : List (Group × Binding) :=
  s.groups.flatMap fun g => g.bindings.map fun b => (g, b)

theorem length_placed (s : Schema) : s.placed.length = s.bindingCount := by
  unfold placed bindingCount
  induction s.groups with
  | nil => rfl
  | cons g groups ih =>
      rw [List.flatMap_cons, List.length_append, ih, List.length_map]
      rfl

end Schema

end ActionLookup
