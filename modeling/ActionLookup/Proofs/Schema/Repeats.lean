import Mathlib.Data.Finset.Dedup
import Mathlib.Data.Finset.Card
import ActionLookup.Proofs.Schema.Reported

namespace ActionLookup

def repeatAfter (earlier : List (Group × Binding)) (p : Group × Binding) : Option Shadowed :=
  (earlier.find? fun q => q.2.key = p.2.key).map fun q =>
    ⟨p.2.name, p.2.valueType, q.1.name, p.1.name⟩

namespace Schema

def repeats (s : Schema) : List Shadowed :=
  s.placed.zipIdx.filterMap fun p => repeatAfter (s.placed.take p.2) p.1

def keys (s : Schema) : List (ValueType × String) := s.placed.map fun p => p.2.key

end Schema

theorem shadowedAfter_cons (earlier rest : List (Group × Binding)) (p : Group × Binding) :
    shadowedAfter (firstGroupsAfter [] earlier) (p :: rest) =
      (repeatAfter earlier p).toList ++ shadowedAfter (firstGroupsAfter [] (earlier ++ [p])) rest := by
  obtain ⟨g, b⟩ := p
  have hfirst := lookup_firstGroupsAfter [] earlier b.key
  rw [List.lookup_nil, Option.none_or] at hfirst
  rw [firstGroupsAfter_append]
  simp only [shadowedAfter, firstGroupsAfter, repeatAfter, hfirst]
  cases earlier.find? fun q => q.2.key = b.key with
  | none => rfl
  | some q => rfl

theorem shadowedAfter_eq_filterMap (earlier rest : List (Group × Binding)) :
    shadowedAfter (firstGroupsAfter [] earlier) rest =
      (rest.zipIdx earlier.length).filterMap fun p => repeatAfter ((earlier ++ rest).take p.2) p.1 := by
  induction rest generalizing earlier with
  | nil => rfl
  | cons p rest ih =>
      have hlater := ih (earlier ++ [p])
      rw [List.length_append, List.append_assoc] at hlater
      have hhere : (earlier ++ p :: rest).take earlier.length = earlier := List.take_left
      rw [shadowedAfter_cons, hlater, List.zipIdx_cons, List.filterMap_cons]
      simp only [hhere]
      cases repeatAfter earlier p with
      | none => rfl
      | some r => rfl

theorem lookup_eq_none_iff {first : FirstGroups} {key : ValueType × String} :
    first.lookup key = none ↔ key ∉ (first.map Prod.fst).toFinset := by
  rw [List.lookup_eq_none_iff, List.mem_toFinset, List.mem_map]
  constructor
  · rintro h ⟨p, hp, rfl⟩
    exact absurd (h p hp) (by simp)
  · intro h p hp
    exact bne_iff_ne.mpr fun heq => h ⟨p, hp, heq.symm⟩

theorem length_shadowedAfter (first : FirstGroups) (ps : List (Group × Binding)) :
    (shadowedAfter first ps).length + (first.map Prod.fst ++ ps.map fun p => p.2.key).toFinset.card =
      ps.length + (first.map Prod.fst).toFinset.card := by
  -- A key that is reported is in the table already; one that is not is put there.
  induction ps generalizing first with
  | nil => simp [shadowedAfter]
  | cons p ps ih =>
      obtain ⟨g, b⟩ := p
      rw [List.map_cons, List.toFinset_append, List.toFinset_cons, Finset.union_insert]
      cases hl : first.lookup b.key with
      | some name =>
          have hold : b.key ∈ (first.map Prod.fst).toFinset := by
            by_contra hnot
            rw [lookup_eq_none_iff.mpr hnot] at hl
            cases hl
          have hrest := ih first
          rw [List.toFinset_append] at hrest
          rw [Finset.insert_eq_of_mem (Finset.mem_union_left _ hold)]
          simp only [shadowedAfter, hl, List.length_cons]
          omega
      | none =>
          have hrest := ih ((b.key, g.name) :: first)
          rw [List.map_cons, List.toFinset_append, List.toFinset_cons, Finset.insert_union,
            Finset.card_insert_of_notMem (lookup_eq_none_iff.mp hl)] at hrest
          simp only [shadowedAfter, hl, List.length_cons] at hrest ⊢
          omega

theorem Schema.shadowed_reports_repeats (s : Schema) :
    s.shadowed = s.repeats ∧
      s.shadowed.length + s.keys.toFinset.card = s.bindingCount ∧
      (s.shadowed = [] ↔ s.keys.Nodup) := by
  refine ⟨shadowedAfter_eq_filterMap [] s.placed, ?_, s.shadowed_eq_nil_iff⟩
  have hlength := length_shadowedAfter [] s.placed
  rwa [List.map_nil, List.nil_append, List.toFinset_nil, Finset.card_empty, Nat.add_zero,
    s.length_placed] at hlength

end ActionLookup
