import ActionLookup.Proofs.Accessor.Labels

/-!
The members that bindings read. In a schema without problems no two bindings have the same names, but
members are named without blanks: two bindings read one member exactly when their names agree up to
blanks (`members_coincide_iff`).
-/

namespace ActionLookup

open Text

namespace Accessor

def member (holder group name : String) : String :=
  s!"{holder}.{Name.strip group}.{Name.strip name}"

theorem target_eq_member (holder : String) (g : Group) (b : Binding) :
    target holder g b = member holder g.name b.name := rfl

theorem member_eq_iff {holder group group' name name' : String}
    (hg : Name.isIdentifier (Name.strip group) = true) (hn : Name.isIdentifier (Name.strip name) = true) :
    member holder group name = member holder group' name' ↔
      Name.strip group = Name.strip group' ∧ Name.strip name = Name.strip name' := by
  have hdot {name : String} (h : Name.isIdentifier (Name.strip name) = true) :
      '.' ∉ (Name.strip name).toList := by
    have havoids : Avoids ['.'] (Name.strip name) := Avoids.identifier (by decide) h
    exact fun hmem => havoids '.' hmem (List.mem_singleton_self _)
  have htext (group name : String) : (member holder group name).toList =
      holder.toList ++ '.' :: ((Name.strip group).toList ++ '.' :: (Name.strip name).toList) := by
    simp [member, toString]
  rw [← String.toList_inj, htext, htext, List.append_cancel_left_eq, List.cons.injEq,
    List.append_cons_inj_of_notMem (hdot hg) (hdot hn), String.toList_inj, String.toList_inj]
  simp

theorem returnLive_injective {t : ValueType} {a b : String} (h : returnLive t a = returnLive t b) :
    a = b := by
  have hchars := congrArg String.toList h
  cases t with
  | vector2 =>
      simp only [returnLive_vector2, String.toList_append, List.append_cancel_left_eq,
        List.append_cancel_right_eq] at hchars
      exact String.toList_inj.mp hchars
  | boolean =>
      simp only [returnLive_boolean, String.toList_append, List.append_assoc,
        List.append_cancel_left_eq] at hchars
      have hlength := congrArg List.length hchars
      simp only [List.length_append] at hlength
      exact String.toList_inj.mp (List.append_inj hchars (by omega)).1

theorem nodup_names_placed {s : Schema} (h : s.Valid) :
    (s.placed.map fun p => (p.1.name, p.2.name)).Nodup := by
  have hpairs : s.placed.map (fun p => (p.1.name, p.2.name)) =
      s.groups.flatMap fun g => (g.bindings.map fun b => b.name).map (Prod.mk g.name) := by
    simp only [Schema.placed, List.map_flatMap, List.map_map, Function.comp_def]
  rw [hpairs, List.nodup_flatMap]
  constructor
  · intro g hg
    exact (h.bindings_distinct g hg).map fun _ _ hpair => (Prod.mk.inj hpair).2
  · refine (List.pairwise_map.mp h.groups_distinct).imp fun {g g'} hne pair hpair hpair' => ?_
    obtain ⟨_, _, rfl⟩ := List.mem_map.mp hpair
    obtain ⟨_, _, heq⟩ := List.mem_map.mp hpair'
    exact hne (Prod.mk.inj heq).1.symm

theorem identifiers_of_mem_placed {s : Schema} (h : s.Valid) {p : Group × Binding} (hp : p ∈ s.placed) :
    Name.isIdentifier (Name.strip p.1.name) = true ∧ Name.isIdentifier (Name.strip p.2.name) = true := by
  obtain ⟨g, hg, hmap⟩ := List.mem_flatMap.mp hp
  obtain ⟨b, hb, rfl⟩ := List.mem_map.mp hmap
  exact ⟨h.groups g hg, h.bindings g hg b hb⟩

theorem exists_placed_of_inGroup? {s : Schema} {t : ValueType} {group name : String} {b : Binding}
    (h : s.inGroup? t group name = some b) : ∃ p ∈ s.placed, p.1.name = group ∧ p.2.name = name := by
  obtain ⟨g, hg, hb⟩ := Option.bind_eq_some_iff.mp h
  have hmem : (g, b) ∈ s.placed := List.mem_flatMap.mpr
    ⟨g, List.mem_of_find?_eq_some hg, List.mem_map_of_mem (List.mem_of_find?_eq_some hb)⟩
  have hname : b.valueType = t ∧ b.name = name := by simpa using List.find?_some hb
  exact ⟨(g, b), hmem, by simpa using List.find?_some hg, hname.2⟩

theorem call_reads_iff (schema : Schema) {settings : Settings} (h : settings.Usable) (t : ValueType)
    (group name read : String) :
    call (argumentsOf name (some group))
          (linesOf settings.lineEnding ((Generation.bodies schema settings).get ⟨t, true⟩)) =
        some [s!"{schema.holder}.Enable();", returnLive t read] ↔
      (∃ b, schema.inGroup? t group name = some b) ∧ read = member schema.holder group name := by
  rw [linesOf_body schema h, call_qualified_eq]
  cases hb : schema.inGroup? t group name with
  | none => simp
  | some b =>
      constructor
      · intro hlines
        have hreturn := (List.cons.inj (Option.some.inj hlines)).2
        exact ⟨⟨b, rfl⟩, (returnLive_injective (List.cons.inj hreturn).1).symm⟩
      · rintro ⟨-, rfl⟩
        rfl

theorem members_coincide_iff {s : Schema} (h : s.validate = .ok ()) :
    (∀ (i j : Nat) (p q : Group × Binding), s.placed[i]? = some p → s.placed[j]? = some q → i ≠ j →
        (p.1.name, p.2.name) ≠ (q.1.name, q.2.name) ∧
          (target s.holder p.1 p.2 = target s.holder q.1 q.2 ↔
            Name.strip p.1.name = Name.strip q.1.name ∧ Name.strip p.2.name = Name.strip q.2.name)) ∧
      ∀ (settings : Settings) (m : Module), (Generation.generate s settings).result = .ok m →
        ∀ (t t' : ValueType) (group group' name name' read read' : String),
          call (argumentsOf name (some group)) (linesOf settings.lineEnding (m.bodies.get ⟨t, true⟩)) =
              some [s!"{s.holder}.Enable();", returnLive t read] →
            call (argumentsOf name' (some group')) (linesOf settings.lineEnding (m.bodies.get ⟨t', true⟩)) =
              some [s!"{s.holder}.Enable();", returnLive t' read'] →
            (read = read' ↔ Name.strip group = Name.strip group' ∧ Name.strip name = Name.strip name') := by
  have hvalid := Schema.validate_eq_ok_iff.mp h
  constructor
  · intro i j p q hp hq hij
    obtain ⟨hg, hn⟩ := identifiers_of_mem_placed hvalid (List.mem_of_getElem? hp)
    rw [target_eq_member, target_eq_member]
    refine ⟨fun hnames => hij ?_, member_eq_iff hg hn⟩
    have hi : (s.placed.map fun p => (p.1.name, p.2.name))[i]? = some (p.1.name, p.2.name) := by simp [hp]
    have hj : (s.placed.map fun p => (p.1.name, p.2.name))[j]? = some (q.1.name, q.2.name) := by simp [hq]
    have hlength : i < (s.placed.map fun p => (p.1.name, p.2.name)).length :=
      (List.getElem?_eq_some_iff.mp hi).1
    exact (List.getElem?_inj hlength (nodup_names_placed hvalid)).mp (by rw [hi, hj, hnames])
  · intro settings m hm t t' group group' name name' read read' hcall hcall'
    obtain ⟨hadmits, rfl⟩ := Generation.generate_eq_ok_iff.mp hm
    have husable := Settings.problem?_eq_none_iff.mp hadmits.usable
    obtain ⟨⟨b, hb⟩, rfl⟩ := (call_reads_iff s husable _ _ _ _).mp hcall
    obtain ⟨-, rfl⟩ := (call_reads_iff s husable _ _ _ _).mp hcall'
    obtain ⟨p, hp, rfl, rfl⟩ := exists_placed_of_inGroup? hb
    obtain ⟨hg, hn⟩ := identifiers_of_mem_placed hvalid hp
    exact member_eq_iff hg hn

theorem admits_crossed : Generation.Admits crossedSchema oddSettings where
  usable := by decide
  apart := by decide
  accepted := nofun
  unshadowed := nofun

theorem members_coincide_crossed :
    crossedSchema.validate = .ok () ∧
      (crossedSchema.placed[2]?.map fun p => target crossedSchema.holder p.1 p.2) =
        (crossedSchema.placed[4]?.map fun p => target crossedSchema.holder p.1 p.2) ∧
      (crossedSchema.placed[1]?.map fun p => target crossedSchema.holder p.1 p.2) ≠
        (crossedSchema.placed[4]?.map fun p => target crossedSchema.holder p.1 p.2) ∧
      (Generation.generate crossedSchema oddSettings).result =
        .ok (Generation.moduleFor crossedSchema oddSettings) ∧
      member crossedSchema.holder "Go Up" "GoUp" = member crossedSchema.holder "GoUp" "Go Up" := by
  have hvalid : crossedSchema.validate = .ok () := by decide
  have hok := Generation.generate_eq_ok_iff.mpr ⟨admits_crossed, rfl⟩
  have husable := Settings.problem?_eq_none_iff.mp admits_crossed.usable
  have h := members_coincide_iff hvalid
  have hshared := (h.1 2 4 _ _ rfl rfl (by decide)).2.mpr (by decide)
  have happart := (h.1 1 4 _ _ rfl rfl (by decide)).2.not.mpr (by decide)
  refine ⟨hvalid, congrArg some hshared, fun heq => happart (Option.some.inj heq), hok, ?_⟩
  have hreads := h.2 oddSettings _ hok .vector2 .boolean "Go Up" "GoUp" "GoUp" "Go Up" _ _
    ((call_reads_iff crossedSchema husable _ _ _ _).mpr ⟨⟨⟨"GoUp", .vector2⟩, by decide⟩, rfl⟩)
    ((call_reads_iff crossedSchema husable _ _ _ _).mpr ⟨⟨⟨"Go Up", .boolean⟩, by decide⟩, rfl⟩)
  exact hreads.mpr (by decide)

def twinGroup : Group := ⟨"Player", [⟨"Go Up", .vector2⟩, ⟨"GoUp", .vector2⟩]⟩

def twinSchema : Schema := ⟨"Controls", [twinGroup]⟩

theorem member_shared_twin :
    twinSchema.validate = .ok () ∧
      twinSchema.placed = [(twinGroup, ⟨"Go Up", .vector2⟩), (twinGroup, ⟨"GoUp", .vector2⟩)] ∧
      target twinSchema.holder twinGroup ⟨"Go Up", .vector2⟩ =
        target twinSchema.holder twinGroup ⟨"GoUp", .vector2⟩ ∧
      (Generation.generate twinSchema Settings.default).result =
        .ok (Generation.moduleFor twinSchema Settings.default) ∧
      call (argumentsOf "Go Up" (some "Player"))
          (linesOf .lf ((Generation.moduleFor twinSchema Settings.default).bodies.get ⟨.vector2, true⟩)) =
        call (argumentsOf "GoUp" (some "Player"))
          (linesOf .lf ((Generation.moduleFor twinSchema Settings.default).bodies.get ⟨.vector2, true⟩)) ∧
      call (argumentsOf "GoUp" (some "Player"))
          (linesOf .lf ((Generation.moduleFor twinSchema Settings.default).bodies.get ⟨.vector2, true⟩)) =
        some [s!"{twinSchema.holder}.Enable();", "return controls.Player.GoUp.ReadValue<Vector2>();"] := by
  have hvalid : twinSchema.validate = .ok () := by decide
  have husable : Settings.default.Usable := Settings.problem?_eq_none_iff.mp (by decide)
  have hok : (Generation.generate twinSchema Settings.default).result =
      .ok (Generation.moduleFor twinSchema Settings.default) :=
    Generation.generate_eq_ok_iff.mpr ⟨⟨by decide, by decide, fun _ => by decide, nofun⟩, rfl⟩
  have hshared : member twinSchema.holder "Player" "Go Up" = member twinSchema.holder "Player" "GoUp" := by
    decide
  have hup := (call_reads_iff twinSchema husable .vector2 "Player" "Go Up" _).mpr
    ⟨⟨⟨"Go Up", .vector2⟩, by decide⟩, rfl⟩
  have hgo := (call_reads_iff twinSchema husable .vector2 "Player" "GoUp" _).mpr
    ⟨⟨⟨"GoUp", .vector2⟩, by decide⟩, rfl⟩
  refine ⟨hvalid, rfl, hshared, hok, ?_, ?_⟩
  · exact hup.trans (hshared ▸ hgo.symm)
  · exact hgo.trans (by decide)

end Accessor

end ActionLookup
