import ActionLookup.Schema.Validity

namespace ActionLookup

theorem bindingProblem_eq_none_iff {groupName : String} {index : Nat} {earlier : List String}
    {bs : List Binding} :
    bindingProblem groupName index earlier bs = none ↔
      (∀ b ∈ bs, Name.isIdentifier b.identifier = true ∧ b.name ∉ earlier) ∧
        (bs.map Binding.name).Nodup := by
  induction bs generalizing index earlier with
  | nil => simp [bindingProblem]
  | cons b rest ih =>
      simp only [bindingProblem]
      cases hb : nameProblem "binding" (bindingPlace groupName index) (groupScope groupName) earlier
          b.name with
      | some problem =>
          refine ⟨nofun, fun h => ?_⟩
          have hgood := h.1 b (List.mem_cons_self ..)
          exact nomatch hb.symm.trans (nameProblem_eq_none_iff.mpr hgood)
      | none =>
          have hgood := nameProblem_eq_none_iff.mp hb
          simp only [ih, List.mem_cons, forall_eq_or_imp, List.map_cons, List.nodup_cons, not_or]
          constructor
          · rintro ⟨hall, hnodup⟩
            refine ⟨⟨hgood, fun c hc => ⟨(hall c hc).1, (hall c hc).2.2⟩⟩, fun hmem => ?_, hnodup⟩
            obtain ⟨c, hc, hname⟩ := List.mem_map.mp hmem
            exact (hall c hc).2.1 hname
          · rintro ⟨⟨_, hall⟩, hnot, hnodup⟩
            refine ⟨fun c hc => ⟨(hall c hc).1, fun hname => hnot ?_, (hall c hc).2⟩, hnodup⟩
            exact hname ▸ List.mem_map_of_mem hc

theorem groupProblem_eq_none_iff {schemaName : String} {index : Nat} {earlier : List String}
    {gs : List Group} :
    groupProblem schemaName index earlier gs = none ↔
      (∀ g ∈ gs, Name.isIdentifier g.identifier = true ∧ g.name ∉ earlier) ∧
        (gs.map Group.name).Nodup ∧
        ∀ g ∈ gs, (∀ b ∈ g.bindings, Name.isIdentifier b.identifier = true) ∧
          (g.bindings.map Binding.name).Nodup := by
  induction gs generalizing index earlier with
  | nil => simp [groupProblem]
  | cons g rest ih =>
      simp only [groupProblem]
      cases hg : nameProblem "group" (groupPlace schemaName index) (schemaScope schemaName) earlier
          g.name with
      | some problem =>
          refine ⟨nofun, fun h => ?_⟩
          have hgood := h.1 g (List.mem_cons_self ..)
          exact nomatch hg.symm.trans (nameProblem_eq_none_iff.mpr hgood)
      | none =>
          have hgood := nameProblem_eq_none_iff.mp hg
          cases hb : bindingProblem g.name 0 [] g.bindings with
          | some problem =>
              refine ⟨nofun, fun h => ?_⟩
              have hin := h.2.2 g (List.mem_cons_self ..)
              exact nomatch hb.symm.trans
                (bindingProblem_eq_none_iff.mpr ⟨fun b hb => ⟨hin.1 b hb, by simp⟩, hin.2⟩)
          | none =>
              have hin := bindingProblem_eq_none_iff.mp hb
              simp only [ih, List.mem_cons, forall_eq_or_imp, List.map_cons, List.nodup_cons, not_or]
              constructor
              · rintro ⟨hall, hnodup, hrest⟩
                refine ⟨⟨hgood, fun k hk => ⟨(hall k hk).1, (hall k hk).2.2⟩⟩,
                  ⟨fun hmem => ?_, hnodup⟩, ⟨fun b hb => (hin.1 b hb).1, hin.2⟩, hrest⟩
                obtain ⟨k, hk, hname⟩ := List.mem_map.mp hmem
                exact (hall k hk).2.1 hname
              · rintro ⟨⟨_, hall⟩, ⟨hnot, hnodup⟩, _, hrest⟩
                refine ⟨fun k hk => ⟨(hall k hk).1, fun hname => hnot ?_, (hall k hk).2⟩, hnodup, hrest⟩
                exact hname ▸ List.mem_map_of_mem hk

theorem Schema.problem?_eq_none_iff {s : Schema} : s.problem? = none ↔ s.Valid := by
  unfold Schema.problem?
  cases hs : nameProblem "schema" "asset" "asset" [] s.name with
  | some problem =>
      refine ⟨nofun, fun h => ?_⟩
      exact nomatch hs.symm.trans (nameProblem_eq_none_iff.mpr ⟨h.name, by simp⟩)
  | none =>
      have hname := (nameProblem_eq_none_iff.mp hs).1
      simp only [groupProblem_eq_none_iff]
      constructor
      · rintro ⟨hgroups, hnodup, hbindings⟩
        exact ⟨hname, fun g hg => (hgroups g hg).1, fun g hg => (hbindings g hg).1, hnodup,
          fun g hg => (hbindings g hg).2⟩
      · intro h
        exact ⟨fun g hg => ⟨h.groups g hg, by simp⟩, h.groups_distinct,
          fun g hg => ⟨h.bindings g hg, h.bindings_distinct g hg⟩⟩

theorem Schema.validate_eq_ok_iff {s : Schema} : s.validate = .ok () ↔ s.Valid := by
  rw [← Schema.problem?_eq_none_iff, validate]
  cases s.problem? <;> simp

end ActionLookup
