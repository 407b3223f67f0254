import ActionLookup.Accessor.Section

/-!
Which bindings a lookup by name alone can reach: of each type, the first of every name. The arms
that lead are exactly these (`filter_leads_placedArms`).
-/

namespace ActionLookup

namespace Schema

def placedOf (s : Schema) (t : ValueType) : List (Group × Binding) :=
  s.placed.filter fun p => p.2.valueType = t

end Schema

def firstOfName : List String → List (Group × Binding) → List (Group × Binding)
  | _, [] => []
  | earlier, p :: rest =>
      if p.2.name ∈ earlier then firstOfName earlier rest
      else p :: firstOfName (p.2.name :: earlier) rest

def Schema.reachable (s : Schema) (t : ValueType) : List (Group × Binding) :=
  firstOfName [] (s.placedOf t)

theorem mem_of_mem_firstOfName {earlier : List String} {ps : List (Group × Binding)}
    {p : Group × Binding} (h : p ∈ firstOfName earlier ps) : p ∈ ps := by
  induction ps generalizing earlier with
  | nil => simp [firstOfName] at h
  | cons q rest ih =>
      simp only [firstOfName] at h
      split at h
      · exact List.mem_cons_of_mem _ (ih h)
      · rcases List.mem_cons.mp h with rfl | h
        · exact List.mem_cons_self ..
        · exact List.mem_cons_of_mem _ (ih h)

theorem find?_firstOfName {earlier : List String} {name : String} (hn : name ∉ earlier)
    (ps : List (Group × Binding)) :
    (firstOfName earlier ps).find? (fun p => p.2.name = name) =
      ps.find? fun p => p.2.name = name := by
  induction ps generalizing earlier with
  | nil => rfl
  | cons q rest ih =>
      simp only [firstOfName]
      split
      · rename_i hq
        have hne : q.2.name ≠ name := fun e => hn (e ▸ hq)
        rw [ih hn, List.find?_cons_of_neg (by simpa using hne)]
      · by_cases hq : q.2.name = name
        · rw [List.find?_cons_of_pos (by simpa using hq), List.find?_cons_of_pos (by simpa using hq)]
        · rw [List.find?_cons_of_neg (by simpa using hq), List.find?_cons_of_neg (by simpa using hq)]
          refine ih ?_
          simp only [List.mem_cons, not_or]
          exact ⟨fun e => hq e.symm, hn⟩

theorem not_mem_of_mem_firstOfName {earlier : List String} {ps : List (Group × Binding)}
    {p : Group × Binding} (h : p ∈ firstOfName earlier ps) : p.2.name ∉ earlier := by
  induction ps generalizing earlier with
  | nil => simp [firstOfName] at h
  | cons q rest ih =>
      simp only [firstOfName] at h
      split at h
      · exact ih h
      · rename_i hq
        rcases List.mem_cons.mp h with rfl | h
        · exact hq
        · exact fun hmem => ih h (List.mem_cons_of_mem _ hmem)

theorem nodup_firstOfName (earlier : List String) (ps : List (Group × Binding)) :
    ((firstOfName earlier ps).map fun p => p.2.name).Nodup := by
  induction ps generalizing earlier with
  | nil => exact List.nodup_nil
  | cons q rest ih =>
      simp only [firstOfName]
      split
      · exact ih earlier
      · refine List.nodup_cons.mpr ⟨fun hmem => ?_, ih _⟩
        obtain ⟨p, hp, hname⟩ := List.mem_map.mp hmem
        exact not_mem_of_mem_firstOfName hp (hname ▸ List.mem_cons_self ..)

theorem map_binding_arms {seen : List (ValueType × String)} {gs : List Group} {sec : Section}
    (h : sec ∈ sectionsAfter seen gs) : sec.arms.map Arm.binding = sec.group.bindings := by
  induction gs generalizing seen with
  | nil => simp [sectionsAfter] at h
  | cons g gs ih =>
      rcases List.mem_cons.mp h with rfl | h
      · exact map_binding_armsAfter seen g.bindings
      · exact ih h

def Schema.placedArms (s : Schema) : List (Group × Arm) :=
  s.sections.flatMap fun sec => sec.arms.map fun a => (sec.group, a)

def placedArmsAfter : List (ValueType × String) → List (Group × Binding) → List (Group × Arm)
  | _, [] => []
  | seen, (g, b) :: rest =>
      (armsAfter seen [b]).map (fun a => (g, a)) ++ placedArmsAfter (b.key :: seen) rest

theorem placedArmsAfter_cons (seen : List (ValueType × String)) (g : Group) (b : Binding)
    (rest : List (Group × Binding)) :
    placedArmsAfter seen ((g, b) :: rest) =
      (g, ⟨b, decide (b.key ∉ seen)⟩) :: placedArmsAfter (b.key :: seen) rest := rfl

theorem placedArmsAfter_append (seen : List (ValueType × String)) (g : Group) (bs : List Binding)
    (rest : List (Group × Binding)) :
    placedArmsAfter seen (bs.map (fun b => (g, b)) ++ rest) =
      (armsAfter seen bs).map (fun a => (g, a)) ++
        placedArmsAfter ((bs.map Binding.key).reverse ++ seen) rest := by
  induction bs generalizing seen with
  | nil => rfl
  | cons b bs ih => simp [placedArmsAfter, armsAfter, ih]

theorem flatMap_sectionsAfter (seen : List (ValueType × String)) (gs : List Group) :
    ((sectionsAfter seen gs).flatMap fun sec => sec.arms.map fun a => (sec.group, a)) =
      placedArmsAfter seen (gs.flatMap fun g => g.bindings.map fun b => (g, b)) := by
  induction gs generalizing seen with
  | nil => rfl
  | cons g gs ih =>
      rw [List.flatMap_cons, placedArmsAfter_append, ← ih]
      rfl

theorem Schema.placedArms_eq (s : Schema) : s.placedArms = placedArmsAfter [] s.placed :=
  flatMap_sectionsAfter [] s.groups

theorem filter_leads_placedArmsAfter {t : ValueType} {seen : List (ValueType × String)}
    {earlier : List String} (h : ∀ name, (t, name) ∈ seen ↔ name ∈ earlier)
    (ps : List (Group × Binding)) :
    ((placedArmsAfter seen ps).filter fun p => p.2.leads && p.2.binding.valueType = t).map
        (fun p => (p.1, p.2.binding)) =
      firstOfName earlier (ps.filter fun p => p.2.valueType = t) := by
  induction ps generalizing seen earlier with
  | nil => rfl
  | cons p rest ih =>
      obtain ⟨g, b⟩ := p
      by_cases ht : b.valueType = t
      · have hkey : b.key = (t, b.name) := by rw [Binding.key, ht]
        by_cases hb : b.name ∈ earlier
        · have hseen : ∀ name, (t, name) ∈ b.key :: seen ↔ name ∈ earlier := by
            intro name
            rw [hkey, List.mem_cons, h, Prod.mk.injEq]
            exact ⟨fun e => e.elim (fun e => e.2 ▸ hb) id, .inr⟩
          have hmem : b.key ∈ seen := by rw [hkey, h]; exact hb
          simp only [placedArmsAfter_cons, hmem, ht, List.filter_cons]
          simpa [firstOfName, hb] using ih hseen
        · have hseen : ∀ name, (t, name) ∈ b.key :: seen ↔ name ∈ b.name :: earlier := by
            intro name
            rw [hkey, List.mem_cons, h, List.mem_cons, Prod.mk.injEq]
            simp
          have hmem : b.key ∉ seen := by rw [hkey, h]; exact hb
          simp only [placedArmsAfter_cons, hmem, ht, List.filter_cons]
          simpa [firstOfName, hb] using ih hseen
      · have hseen : ∀ name, (t, name) ∈ b.key :: seen ↔ name ∈ earlier := by
          intro name
          rw [List.mem_cons, h, Binding.key, Prod.mk.injEq]
          exact ⟨fun e => e.elim (fun e => absurd e.1.symm ht) id, .inr⟩
        simp only [placedArmsAfter_cons, ht, List.filter_cons]
        simpa using ih hseen

theorem Schema.filter_leads_placedArms (s : Schema) (t : ValueType) :
    (s.placedArms.filter fun p => p.2.leads && p.2.binding.valueType = t).map
        (fun p => (p.1, p.2.binding)) = s.reachable t := by
  rw [s.placedArms_eq]
  exact filter_leads_placedArmsAfter (by simp) s.placed

end ActionLookup
