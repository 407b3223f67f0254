import ActionLookup.Schema.Problem

/-!
Bindings that lose to an earlier one of the same name and type when they are looked up by
name alone. The earliest group of each key is remembered; every repeat is reported beside it.
-/

namespace ActionLookup

abbrev FirstGroups := List ((ValueType × String) × String)

def shadowedAfter : FirstGroups → List (Group × Binding) → List Shadowed
  | _, [] => []
  | first, (g, b) :: rest =>
      match first.lookup b.key with
      | some firstGroup => ⟨b.name, b.valueType, firstGroup, g.name⟩ :: shadowedAfter first rest
      | none => shadowedAfter ((b.key, g.name) :: first) rest

def Schema.shadowed (s : Schema) : List Shadowed := shadowedAfter [] s.placed

def firstGroupsAfter : FirstGroups → List (Group × Binding) → FirstGroups
  | first, [] => first
  | first, (g, b) :: rest =>
      match first.lookup b.key with
      | some _ => firstGroupsAfter first rest
      | none => firstGroupsAfter ((b.key, g.name) :: first) rest

theorem shadowedAfter_append (first : FirstGroups) (xs ys : List (Group × Binding)) :
    shadowedAfter first (xs ++ ys) =
      shadowedAfter first xs ++ shadowedAfter (firstGroupsAfter first xs) ys := by
  induction xs generalizing first with
  | nil => rfl
  | cons x xs ih =>
      obtain ⟨g, b⟩ := x
      simp only [List.cons_append, shadowedAfter, firstGroupsAfter]
      cases first.lookup b.key with
      | none => exact ih _
      | some name => simp [ih]

theorem lookup_firstGroupsAfter (first : FirstGroups) (xs : List (Group × Binding))
    (key : ValueType × String) :
    (firstGroupsAfter first xs).lookup key =
      (first.lookup key).or ((xs.find? fun p => p.2.key = key).map fun p => p.1.name) := by
  induction xs generalizing first with
  | nil => simp [firstGroupsAfter]
  | cons x xs ih =>
      obtain ⟨g, b⟩ := x
      simp only [firstGroupsAfter]
      by_cases hk : b.key = key
      · subst hk
        cases h : first.lookup b.key with
        | none => simp [ih]
        | some name => simp [ih, h]
      · have hne : (key == b.key) = false := by simpa using fun e => hk e.symm
        cases h : first.lookup b.key with
        | none => simp [ih, List.lookup_cons, hne, hk]
        | some name => simp [ih, hk]

end ActionLookup
