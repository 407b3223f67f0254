import ActionLookup.Log

/-!
What the accessors tell apart: a section for each group, an arm for each binding. An arm leads
if no earlier one has its key; by name alone only leading arms are reached.
-/

namespace ActionLookup

structure Arm where
  binding : Binding
  leads : Bool
  deriving DecidableEq, Repr

structure Section where
  group : Group
  arms : List Arm
  deriving DecidableEq, Repr

/-- The arms of bindings that come after bindings with the keys `seen`. -/
def armsAfter : List (ValueType × String) → List Binding → List Arm
  | _, [] => []
  | seen, b :: rest => ⟨b, decide (b.key ∉ seen)⟩ :: armsAfter (b.key :: seen) rest

def sectionsAfter : List (ValueType × String) → List Group → List Section
  | _, [] => []
  | seen, g :: rest =>
      ⟨g, armsAfter seen g.bindings⟩ :: sectionsAfter ((g.bindings.map Binding.key).reverse ++ seen) rest

def Schema.sections (s : Schema) : List Section := sectionsAfter [] s.groups

theorem map_binding_armsAfter (seen : List (ValueType × String)) (bs : List Binding) :
    (armsAfter seen bs).map Arm.binding = bs := by
  induction bs generalizing seen with
  | nil => rfl
  | cons b rest ih => simp [armsAfter, ih]

theorem map_group_sectionsAfter (seen : List (ValueType × String)) (gs : List Group) :
    (sectionsAfter seen gs).map Section.group = gs := by
  induction gs generalizing seen with
  | nil => rfl
  | cons g rest ih => simp [sectionsAfter, ih]

def Section.events (s : Section) : List Event :=
  .enteredGroup s.group.name s.arms.length ::
    (s.arms.filter fun arm => !arm.leads).map fun arm => .passedOver arm.binding.name s.group.name

def Schema.dispatchEvents (s : Schema) : List Event := s.sections.flatMap Section.events

end ActionLookup
