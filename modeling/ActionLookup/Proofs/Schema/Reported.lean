import ActionLookup.Schema.Shadowing
import ActionLookup.Proofs.Schema.Reachable

namespace ActionLookup

def reportedAt (ps : List (Group × Binding)) (i : Nat) : Bool :=
  decide (shadowedAfter [] (ps.take (i + 1)) ≠ shadowedAfter [] (ps.take i))

def Schema.unreported (s : Schema) (t : ValueType) : List (Group × Binding) :=
  (s.placed.zipIdx.filter fun p => p.1.2.valueType = t && !reportedAt s.placed p.2).map Prod.fst

theorem firstGroupsAfter_append (first : FirstGroups) (xs ys : List (Group × Binding)) :
    firstGroupsAfter first (xs ++ ys) = firstGroupsAfter (firstGroupsAfter first xs) ys := by
  induction xs generalizing first with
  | nil => rfl
  | cons p xs ih =>
      obtain ⟨g, b⟩ := p
      simp only [List.cons_append, firstGroupsAfter]
      cases first.lookup b.key with
      | none => exact ih _
      | some name => exact ih _

theorem mem_shadowedAfter {first : FirstGroups} {ps : List (Group × Binding)} {r : Shadowed}
    (h : r ∈ shadowedAfter first ps) :
    ∃ xs g b ys, ps = xs ++ (g, b) :: ys ∧
      (firstGroupsAfter first xs).lookup b.key = some r.firstGroup ∧
      r = ⟨b.name, b.valueType, r.firstGroup, g.name⟩ := by
  induction ps generalizing first with
  | nil => simp [shadowedAfter] at h
  | cons p ps ih =>
      obtain ⟨g, b⟩ := p
      simp only [shadowedAfter] at h
      cases hl : first.lookup b.key with
      | none =>
          rw [hl] at h
          obtain ⟨xs, k, c, ys, rfl, hfirst, hr⟩ := ih h
          refine ⟨(g, b) :: xs, k, c, ys, rfl, ?_, hr⟩
          simpa only [firstGroupsAfter, hl] using hfirst
      | some name =>
          rw [hl] at h
          rcases List.mem_cons.mp h with rfl | h
          · exact ⟨[], g, b, ps, rfl, hl, rfl⟩
          · obtain ⟨xs, k, c, ys, rfl, hfirst, hr⟩ := ih h
            refine ⟨(g, b) :: xs, k, c, ys, rfl, ?_, hr⟩
            simpa only [firstGroupsAfter, hl] using hfirst

theorem Schema.mem_shadowed {s : Schema} {r : Shadowed} (h : r ∈ s.shadowed) :
    ∃ xs g b ys p, s.placed = xs ++ (g, b) :: ys ∧ (xs.find? fun q => q.2.key = b.key) = some p ∧
      r = ⟨b.name, b.valueType, p.1.name, g.name⟩ := by
  obtain ⟨xs, g, b, ys, hplaced, hfirst, hr⟩ := mem_shadowedAfter h
  rw [lookup_firstGroupsAfter, List.lookup_nil, Option.none_or] at hfirst
  obtain ⟨p, hp, hname⟩ := Option.map_eq_some_iff.mp hfirst
  exact ⟨xs, g, b, ys, p, hplaced, hp, by rw [hr, hname]⟩

theorem shadowedAfter_eq_nil_iff {first : FirstGroups} {ps : List (Group × Binding)} :
    shadowedAfter first ps = [] ↔
      (∀ p ∈ ps, first.lookup p.2.key = none) ∧ (ps.map fun p => p.2.key).Nodup := by
  induction ps generalizing first with
  | nil => simp [shadowedAfter]
  | cons p ps ih =>
      obtain ⟨g, b⟩ := p
      simp only [shadowedAfter, List.forall_mem_cons, List.map_cons, List.nodup_cons]
      cases hl : first.lookup b.key with
      | some name => simp
      | none =>
          have hnext (p : Group × Binding) : List.lookup p.2.key ((b.key, g.name) :: first) = none ↔
              first.lookup p.2.key = none ∧ p.2.key ≠ b.key := by
            rw [List.lookup_cons]
            by_cases hk : p.2.key = b.key
            · simp [hk]
            · have hne : (p.2.key == b.key) = false := by simpa using hk
              simp only [hne, ne_eq, hk, not_false_eq_true, and_true]
          simp only [ih, hnext, List.mem_map, not_exists, not_and]
          constructor
          · rintro ⟨hps, hnodup⟩
            exact ⟨⟨trivial, fun p hp => (hps p hp).1⟩, fun p hp => (hps p hp).2, hnodup⟩
          · rintro ⟨⟨_, hps⟩, hne, hnodup⟩
            exact ⟨fun p hp => ⟨hps p hp, hne p hp⟩, hnodup⟩

theorem head?_shadowedAfter {first : FirstGroups} {ps : List (Group × Binding)} {r : Shadowed} :
    (shadowedAfter first ps).head? = some r ↔
      ∃ xs g b ys, ps = xs ++ (g, b) :: ys ∧ shadowedAfter first xs = [] ∧
        (firstGroupsAfter first xs).lookup b.key = some r.firstGroup ∧
        r = ⟨b.name, b.valueType, r.firstGroup, g.name⟩ := by
  constructor
  · intro h
    induction ps generalizing first with
    | nil => exact nomatch h
    | cons p ps ih =>
        obtain ⟨g, b⟩ := p
        simp only [shadowedAfter] at h
        cases hl : first.lookup b.key with
        | none =>
            rw [hl] at h
            obtain ⟨xs, k, c, ys, rfl, hnil, hfirst, hr⟩ := ih h
            refine ⟨(g, b) :: xs, k, c, ys, rfl, ?_, ?_, hr⟩
            · simpa only [shadowedAfter, hl] using hnil
            · simpa only [firstGroupsAfter, hl] using hfirst
        | some name =>
            rw [hl] at h
            obtain rfl := Option.some.inj h
            exact ⟨[], g, b, ps, rfl, rfl, hl, rfl⟩
  · rintro ⟨xs, g, b, ys, rfl, hnil, hfirst, hr⟩
    rw [shadowedAfter_append, hnil, List.nil_append, shadowedAfter, hfirst]
    exact congrArg some hr.symm

theorem Schema.shadowed_eq_nil_iff {s : Schema} :
    s.shadowed = [] ↔ (s.placed.map fun p => p.2.key).Nodup := by
  rw [shadowed, shadowedAfter_eq_nil_iff]
  simp

theorem Schema.head?_shadowed_eq_some_iff {s : Schema} {r : Shadowed} :
    s.shadowed.head? = some r ↔
      ∃ xs g b ys p, s.placed = xs ++ (g, b) :: ys ∧ (xs.map fun q => q.2.key).Nodup ∧
        (xs.find? fun q => q.2.key = b.key) = some p ∧ r = ⟨b.name, b.valueType, p.1.name, g.name⟩ := by
  simp only [shadowed, head?_shadowedAfter, shadowedAfter_eq_nil_iff, lookup_firstGroupsAfter,
    List.lookup_nil, Option.none_or, Option.map_eq_some_iff, implies_true, true_and]
  constructor
  · rintro ⟨xs, g, b, ys, hplaced, hnodup, ⟨p, hp, hname⟩, hr⟩
    exact ⟨xs, g, b, ys, p, hplaced, hnodup, hp, by rw [hr, hname]⟩
  · rintro ⟨xs, g, b, ys, p, hplaced, hnodup, hp, rfl⟩
    exact ⟨xs, g, b, ys, hplaced, hnodup, ⟨p, hp, rfl⟩, rfl⟩

theorem passedOver_eq_reported {seen : List (ValueType × String)} {first : FirstGroups}
    (h : ∀ key, key ∈ seen ↔ (first.lookup key).isSome = true) (ps : List (Group × Binding)) :
    ((placedArmsAfter seen ps).filter fun p => !p.2.leads).map (fun p => (p.2.binding.name, p.1.name)) =
      (shadowedAfter first ps).map fun r => (r.name, r.group) := by
  induction ps generalizing seen first with
  | nil => rfl
  | cons p ps ih =>
      obtain ⟨g, b⟩ := p
      cases hl : first.lookup b.key with
      | some name =>
          have hmem : b.key ∈ seen := (h b.key).mpr (by rw [hl]; rfl)
          have hseen : ∀ key, key ∈ b.key :: seen ↔ (first.lookup key).isSome = true := by
            intro key
            rw [← h key, List.mem_cons]
            exact ⟨fun e => e.elim (fun e => e ▸ hmem) id, .inr⟩
          simp only [placedArmsAfter_cons, shadowedAfter, hl, hmem, List.filter_cons, List.map_cons]
          simpa using ih hseen
      | none =>
          have hmem : b.key ∉ seen := fun hm => by
            have hsome := (h b.key).mp hm
            rw [hl] at hsome
            exact Bool.false_ne_true hsome
          have hseen : ∀ key, key ∈ b.key :: seen ↔
              (List.lookup key ((b.key, g.name) :: first)).isSome = true := by
            intro key
            rw [List.mem_cons, h key, List.lookup_cons]
            by_cases hk : key = b.key
            · simp [hk]
            · have hne : (key == b.key) = false := by simpa using hk
              simp [hk, hne]
          simp only [placedArmsAfter_cons, shadowedAfter, hl, hmem, List.filter_cons]
          simpa using ih hseen

theorem reportedAt_length {xs ys : List (Group × Binding)} {p : Group × Binding} :
    reportedAt (xs ++ p :: ys) xs.length = ((firstGroupsAfter [] xs).lookup p.2.key).isSome := by
  have hnext : (xs ++ p :: ys).take (xs.length + 1) = xs ++ [p] := by
    rw [List.take_append, List.take_of_length_le (Nat.le_succ _)]
    simp
  have hhere : (xs ++ p :: ys).take xs.length = xs := by simp
  rw [reportedAt, hnext, hhere, shadowedAfter_append]
  simp only [ne_eq, List.append_right_eq_self, shadowedAfter]
  cases (firstGroupsAfter [] xs).lookup p.2.key with
  | none => rfl
  | some name => rfl

theorem reportedAt_length_iff {xs ys : List (Group × Binding)} {p : Group × Binding} :
    reportedAt (xs ++ p :: ys) xs.length = true ↔ ∃ q ∈ xs, q.2.key = p.2.key := by
  rw [reportedAt_length, lookup_firstGroupsAfter, List.lookup_nil, Option.none_or, Option.isSome_map,
    List.find?_isSome]
  simp only [decide_eq_true_eq]

theorem filter_unreported {t : ValueType} (xs : List (Group × Binding)) {earlier : List String}
    (h : ∀ name, name ∈ earlier ↔ ∃ q ∈ xs, q.2.key = (t, name)) (ys : List (Group × Binding)) :
    ((ys.zipIdx xs.length).filter fun p => p.1.2.valueType = t && !reportedAt (xs ++ ys) p.2).map Prod.fst =
      firstOfName earlier (ys.filter fun p => p.2.valueType = t) := by
  induction ys generalizing xs earlier with
  | nil => rfl
  | cons p ys ih =>
      have hlength : (xs ++ [p]).length = xs.length + 1 := by simp
      have hsplit : xs ++ p :: ys = (xs ++ [p]) ++ ys := by simp
      have hmore : ∀ name, (∃ q ∈ xs ++ [p], q.2.key = (t, name)) ↔
          (name ∈ earlier ∨ p.2.key = (t, name)) := by
        intro name
        simp [h name, or_and_right, exists_or]
      by_cases ht : p.2.valueType = t
      · have hkey : p.2.key = (t, p.2.name) := by rw [Binding.key, ht]
        by_cases hb : p.2.name ∈ earlier
        · have hrep : reportedAt (xs ++ p :: ys) xs.length = true :=
            reportedAt_length_iff.mpr (by rw [hkey]; exact (h _).mp hb)
          have hnext : ∀ name, name ∈ earlier ↔ ∃ q ∈ xs ++ [p], q.2.key = (t, name) := by
            intro name
            rw [hmore, hkey, Prod.mk.injEq]
            exact ⟨.inl, fun e => e.elim id fun e => e.2 ▸ hb⟩
          have hih := ih (xs ++ [p]) hnext
          rw [hlength, ← hsplit] at hih
          simp only [List.zipIdx_cons, List.filter_cons, hrep, ht]
          simpa [firstOfName, hb] using hih
        · have hrep : reportedAt (xs ++ p :: ys) xs.length = false := by
            rw [← Bool.not_eq_true, reportedAt_length_iff, hkey, ← h]
            exact hb
          have hnext : ∀ name, name ∈ p.2.name :: earlier ↔ ∃ q ∈ xs ++ [p], q.2.key = (t, name) := by
            intro name
            rw [hmore, hkey, Prod.mk.injEq, List.mem_cons]
            exact ⟨fun e => e.elim (fun e => .inr ⟨rfl, e.symm⟩) .inl,
              fun e => e.elim .inr fun e => .inl e.2.symm⟩
          have hih := ih (xs ++ [p]) hnext
          rw [hlength, ← hsplit] at hih
          simp only [List.zipIdx_cons, List.filter_cons, hrep, ht]
          simpa [firstOfName, hb] using hih
      · have hnext : ∀ name, name ∈ earlier ↔ ∃ q ∈ xs ++ [p], q.2.key = (t, name) := by
          intro name
          rw [hmore, Binding.key, Prod.mk.injEq]
          exact ⟨.inl, fun e => e.elim id fun e => absurd e.1 ht⟩
        have hih := ih (xs ++ [p]) hnext
        rw [hlength, ← hsplit] at hih
        simp only [List.zipIdx_cons, List.filter_cons, ht]
        simpa using hih

theorem Schema.unreported_eq_reachable (s : Schema) (t : ValueType) : s.unreported t = s.reachable t :=
  filter_unreported [] (by simp) s.placed

end ActionLookup
