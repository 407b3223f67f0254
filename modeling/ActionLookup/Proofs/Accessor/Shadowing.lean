import ActionLookup.Proofs.Accessor.Lookup
import ActionLookup.Proofs.Schema.Reported

namespace ActionLookup

open Text

namespace Event

def passedOver? : Event → Option (String × String)
  | .passedOver binding group => some (binding, group)
  | _ => none

end Event

theorem filter_warn_unreachable (rs : List Shadowed) :
    (rs.map Event.unreachable).filter (fun e => e.level = .warn) = rs.map Event.unreachable := by
  refine List.filter_eq_self.mpr fun e he => ?_
  obtain ⟨r, _, rfl⟩ := List.mem_map.mp he
  rfl

theorem filterMap_unreachable (rs : List Shadowed) :
    (rs.map Event.unreachable).filterMap Event.passedOver? = [] := by
  rw [List.filterMap_map]
  exact List.filterMap_eq_nil_iff.mpr fun _ _ => rfl

theorem Section.events_level (sec : Section) : ∀ e ∈ sec.events, e.level = .debug := by
  intro e he
  rcases List.mem_cons.mp he with rfl | he
  · rfl
  · obtain ⟨a, _, rfl⟩ := List.mem_map.mp he
    rfl

theorem Section.filterMap_events (sec : Section) :
    sec.events.filterMap Event.passedOver? =
      ((sec.arms.map fun a => (sec.group, a)).filter fun p => !p.2.leads).map
        fun p => (p.2.binding.name, p.1.name) := by
  rw [events, List.filterMap_cons_none rfl, List.filterMap_map, List.filter_map, List.map_map,
    ← List.filterMap_eq_map]
  rfl

namespace Schema

theorem filter_warn_dispatchEvents (s : Schema) :
    s.dispatchEvents.filter (fun e => e.level = .warn) = [] := by
  refine List.filter_eq_nil_iff.mpr fun e he => ?_
  obtain ⟨sec, _, hsec⟩ := List.mem_flatMap.mp he
  simp [sec.events_level e hsec]

theorem filterMap_dispatchEvents (s : Schema) :
    s.dispatchEvents.filterMap Event.passedOver? = s.shadowed.map fun r => (r.name, r.group) := by
  have harms : s.dispatchEvents.filterMap Event.passedOver? =
      (s.placedArms.filter fun p => !p.2.leads).map fun p => (p.2.binding.name, p.1.name) := by
    simp only [dispatchEvents, placedArms, List.filterMap_flatMap, Section.filterMap_events,
      List.filter_flatMap, List.map_flatMap]
  rw [harms, s.placedArms_eq]
  exact passedOver_eq_reported (by simp) s.placed

theorem anywhere?_of_shadowed {s : Schema} {r : Shadowed} (h : r ∈ s.shadowed) :
    ∃ p, s.anywhere? r.valueType r.name = some p ∧ p.1.name = r.firstGroup := by
  obtain ⟨xs, g, b, ys, p, hplaced, hp, rfl⟩ := s.mem_shadowed h
  refine ⟨p, ?_, rfl⟩
  have hkey : (xs.find? fun q => q.2.valueType = b.valueType ∧ q.2.name = b.name) = some p := by
    simpa only [Binding.key, Prod.mk.injEq] using hp
  rw [anywhere?, hplaced, List.find?_append, hkey, Option.some_or]

theorem mem_groups_of_shadowed {s : Schema} {r : Shadowed} (h : r ∈ s.shadowed) :
    ∃ g ∈ s.groups, g.name = r.group ∧ ⟨r.name, r.valueType⟩ ∈ g.bindings := by
  obtain ⟨xs, g, b, ys, p, hplaced, _, rfl⟩ := s.mem_shadowed h
  have hmem : (g, b) ∈ s.placed := by
    rw [hplaced]
    exact List.mem_append_right _ (List.mem_cons_self ..)
  obtain ⟨k, hk, hmap⟩ := List.mem_flatMap.mp hmem
  obtain ⟨c, hc, heq⟩ := List.mem_map.mp hmap
  obtain ⟨rfl, rfl⟩ := Prod.mk.inj heq
  exact ⟨k, hk, rfl, hc⟩

end Schema

namespace Generation

theorem warnings_of_admits {schema : Schema} {settings : Settings} (h : Admits schema settings)
    (hf : settings.duplicates = .firstWins) :
    (generate schema settings).events.filter (fun e => e.level = .warn) =
      schema.shadowed.map Event.unreachable := by
  rw [generate_of_admits h, tells, checkShadowed, hf]
  simp only [Report.tell, List.filter_append, filter_warn_unreachable,
    schema.filter_warn_dispatchEvents, List.append_nil]
  exact List.append_nil _

theorem passedOver_of_admits {schema : Schema} {settings : Settings} (h : Admits schema settings)
    (hf : settings.duplicates = .firstWins) :
    (generate schema settings).events.filterMap Event.passedOver? =
      schema.shadowed.map fun r => (r.name, r.group) := by
  rw [generate_of_admits h, tells, checkShadowed, hf]
  simp only [Report.tell, List.filterMap_append, filterMap_unreachable,
    schema.filterMap_dispatchEvents, List.nil_append]
  exact List.append_nil _

end Generation

namespace Accessor

def armsOf : List String → List (String × String)
  | line :: next :: rest =>
      if startsWith "case " line then (line, next) :: armsOf (next :: rest) else armsOf (next :: rest)
  | _ => []

theorem armsOf_other {line : String} (h : startsWith "case " line = false) (rest : List String) :
    armsOf (line :: rest) = armsOf rest := by
  cases rest with
  | nil => rfl
  | cons next rest => simp only [armsOf, h, Bool.false_eq_true, if_false]

theorem startsWith_case_of_initial {line : String} (h : initial line ≠ some 'c') :
    startsWith "case " line = false := by
  rw [← Bool.not_eq_true]
  intro hstart
  obtain ⟨more, hmore⟩ := toList_of_startsWith hstart
  exact h (by rw [initial, hmore]; simp)

theorem startsWith_case_of_avoids {line : String} (h : Avoids [' '] line) :
    startsWith "case " line = false := by
  rw [← Bool.not_eq_true]
  intro hstart
  obtain ⟨more, hmore⟩ := toList_of_startsWith hstart
  exact h ' ' (by rw [hmore]; simp) (by simp)

theorem armsOf_armTexts (holder : String) (p : Group × Binding) (rest : List String) :
    armsOf (armTexts holder p ++ rest) =
      (label p.2.name, returnLive p.2.valueType (target holder p.1 p.2)) :: armsOf rest := by
  have hlabel : startsWith "case " (label p.2.name) = true := by simp [startsWith, label_eq]
  have hreturn : startsWith "case " (returnLive p.2.valueType (target holder p.1 p.2)) = false :=
    startsWith_case_of_initial (by rw [initial_returnLive]; decide)
  rw [armTexts, List.cons_append, List.cons_append, List.nil_append, armsOf, if_pos hlabel,
    armsOf_other hreturn]

theorem armsOf_flatMap (holder : String) (ps : List (Group × Binding)) (rest : List String) :
    armsOf (ps.flatMap (armTexts holder) ++ rest) =
      (ps.map fun p => (label p.2.name, returnLive p.2.valueType (target holder p.1 p.2))) ++
        armsOf rest := by
  induction ps with
  | nil => rfl
  | cons p ps ih =>
      rw [List.flatMap_cons, List.append_assoc, armsOf_armTexts, ih]
      rfl

theorem startsWith_case_call (schema : Schema) (call : String) (h : Avoids [' '] call) :
    startsWith "case " (schema.holder ++ call) = false :=
  startsWith_case_of_avoids
    (Avoids.append_iff.mpr ⟨Avoids.mono (by decide) (avoids_blanks_holder schema), h⟩)

theorem armsOf_unqualified (schema : Schema) (settings : Settings) (t : ValueType) :
    armsOf ((rendering schema settings ⟨t, false⟩).map Line.content ++ [""]) =
      (schema.reachable t).map fun p =>
        (label p.2.name, returnLive p.2.valueType (target schema.holder p.1 p.2)) := by
  have henable : startsWith "case " s!"{schema.holder}.Enable();" = false :=
    startsWith_case_call schema ".Enable();" (by simp [Avoids])
  have hdisable : startsWith "case " s!"{schema.holder}.Disable();" = false :=
    startsWith_case_call schema ".Disable();" (by simp [Avoids])
  have hsignature : startsWith "case " (signature settings ⟨t, false⟩) = false :=
    startsWith_case_of_initial (by simp [initial_signature])
  have hrest : startsWith "case " (returnRest t) = false :=
    startsWith_case_of_initial (by simp [initial_returnRest])
  have hopen : startsWith "case " openBrace = false :=
    startsWith_case_of_initial (by simp [initial_openBrace])
  have hclose : startsWith "case " closeBrace = false :=
    startsWith_case_of_initial (by simp [initial_closeBrace])
  have hempty : startsWith "case " "" = false := startsWith_case_of_initial (by simp [initial])
  have hswitch : startsWith "case " "switch(actionName)" = false :=
    startsWith_case_of_initial (by simp [initial])
  have hdefault : startsWith "case " "default:" = false :=
    startsWith_case_of_initial (by simp [initial])
  have hbreak : startsWith "case " "break;" = false := startsWith_case_of_initial (by simp [initial])
  rw [content_rendering, content_choiceLines_unqualified]
  simp only [Bool.false_eq_true, if_false]
  rw [armsOf_other hsignature, armsOf_other hopen, armsOf_other henable,
    armsOf_other hempty, armsOf_other hswitch, armsOf_other hopen, armsOf_flatMap,
    armsOf_other hdefault, armsOf_other hbreak, armsOf_other hclose, armsOf_other hdisable,
    armsOf_other hrest, armsOf_other hclose]
  exact List.append_nil _

/-- The arm stands in a block of its own behind the label of the group. -/
def HasArm (lines : List String) (group name statement : String) : Prop :=
  ∃ outer block more, lines = outer ++ label group :: "switch(actionName)" :: openBrace :: block ∧
    behind (label name) 0 block = some (statement :: more)

theorem hasArm_qualified {schema : Schema} {g : Group} {b : Binding} (hg : g ∈ schema.groups)
    (hb : b ∈ g.bindings) (settings : Settings) :
    HasArm ((rendering schema settings ⟨b.valueType, true⟩).map Line.content ++ [""]) g.name b.name
      (returnLive b.valueType (target schema.holder g b)) := by
  obtain ⟨before, after, hgroups⟩ := List.append_of_mem hg
  have hmem : (g, b) ∈ (g.ofType b.valueType).map fun c => (g, c) :=
    List.mem_map_of_mem (List.mem_filter.mpr ⟨hb, by simp⟩)
  obtain ⟨p, hp⟩ := Option.isSome_iff_exists.mp
    (List.find?_isSome.mpr ⟨(g, b), hmem, by simp⟩ :
      (((g.ofType b.valueType).map fun c => (g, c)).find? fun p => p.2.name = b.name).isSome = true)
  have hname : p.2.name = b.name := by simpa using List.find?_some hp
  obtain ⟨c, hc, rfl⟩ := List.mem_map.mp (List.mem_of_find?_eq_some hp)
  have htype : c.valueType = b.valueType := by simpa using (List.mem_filter.mp hc).2
  have hcb : target schema.holder g c = target schema.holder g b := by
    rw [target_eq, target_eq, Binding.identifier, Binding.identifier, hname]
  obtain ⟨more, hbehind⟩ := behind_label_arms schema.holder hp
    ("default:" :: "break;" :: closeBrace :: "break;" ::
      (after.flatMap (sectionTexts schema.holder b.valueType) ++
        "default:" :: "break;" :: closeBrace ::
          [s!"{schema.holder}.Disable();", returnRest b.valueType, closeBrace, ""]))
  rw [htype, hcb] at hbehind
  refine ⟨[signature settings ⟨b.valueType, true⟩, openBrace, s!"{schema.holder}.Enable();", "",
    "switch(mapName)", openBrace] ++ before.flatMap (sectionTexts schema.holder b.valueType), _, more,
    ?_, hbehind⟩
  rw [content_rendering, content_choiceLines_qualified, hgroups, List.flatMap_append, List.flatMap_cons,
    List.append_assoc, List.append_assoc, sectionTexts_append]
  simp only [if_true, List.cons_append, List.nil_append]

theorem shadowed_generated {schema : Schema} {settings : Settings} {m : Module}
    (h : (Generation.generate schema settings).result = .ok m) (hf : settings.duplicates = .firstWins) :
    (∀ t, armsOf (linesOf settings.lineEnding (m.bodies.get ⟨t, false⟩)) =
        (schema.unreported t).map fun p => (label p.2.name, returnLive t (target schema.holder p.1 p.2))) ∧
      (∀ r ∈ schema.shadowed,
        call (argumentsOf r.name none) (linesOf settings.lineEnding (m.bodies.get ⟨r.valueType, false⟩)) =
            some [s!"{schema.holder}.Enable();",
              returnLive r.valueType s!"{schema.holder}.{Name.strip r.firstGroup}.{Name.strip r.name}"] ∧
          HasArm (linesOf settings.lineEnding (m.bodies.get ⟨r.valueType, true⟩)) r.group r.name
            (returnLive r.valueType s!"{schema.holder}.{Name.strip r.group}.{Name.strip r.name}")) ∧
      (Generation.generate schema settings).events.filter (fun e => e.level = .warn) =
        schema.shadowed.map Event.unreachable ∧
      (Generation.generate schema settings).events.filterMap Event.passedOver? =
        schema.shadowed.map fun r => (r.name, r.group) := by
  obtain ⟨hadmits, rfl⟩ := Generation.generate_eq_ok_iff.mp h
  have husable := Settings.problem?_eq_none_iff.mp hadmits.usable
  simp only [Generation.moduleFor, linesOf_body schema husable]
  refine ⟨fun t => ?_, fun r hr => ⟨?_, ?_⟩, Generation.warnings_of_admits hadmits hf,
    Generation.passedOver_of_admits hadmits hf⟩
  · rw [armsOf_unqualified, Schema.unreported_eq_reachable]
    refine List.map_congr_left fun p hp => ?_
    have ht : p.2.valueType = t := by
      simpa using (List.mem_filter.mp (mem_of_mem_firstOfName hp)).2
    rw [ht]
  · obtain ⟨p, hp, hfirst⟩ := schema.anywhere?_of_shadowed hr
    rw [call_unqualified_eq, hp, ← hfirst]
  · obtain ⟨g, hg, hname, hb⟩ := schema.mem_groups_of_shadowed hr
    have harm := hasArm_qualified hg hb settings
    rw [hname] at harm
    simpa only [target, Group.identifier, Binding.identifier, hname] using harm

def crowdedSchema : Schema :=
  ⟨"Pad", [⟨"On Foot", [⟨"Go", .vector2⟩, ⟨"Go", .boolean⟩, ⟨"Go", .vector2⟩]⟩,
    ⟨"In Air", [⟨"Go", .vector2⟩, ⟨"Up", .boolean⟩]⟩]⟩

def crowdedSettings : Settings := { Settings.default with validates := false }

theorem admits_crowded : Generation.Admits crowdedSchema crowdedSettings where
  usable := by decide
  apart := by decide
  accepted := by decide
  unshadowed := by decide

theorem shadowed_generated_crowded :
    (Generation.generate crowdedSchema crowdedSettings).result =
        .ok (Generation.moduleFor crowdedSchema crowdedSettings) ∧
      crowdedSettings.duplicates = .firstWins ∧
      armsOf (linesOf .lf
          ((Generation.moduleFor crowdedSchema crowdedSettings).bodies.get ⟨.vector2, false⟩)) =
        [("case \"Go\":", "return pad.OnFoot.Go.ReadValue<Vector2>();")] ∧
      (Generation.generate crowdedSchema crowdedSettings).events.filterMap Event.passedOver? =
        [("Go", "On Foot"), ("Go", "In Air")] := by
  have hok := Generation.generate_eq_ok_iff.mpr ⟨admits_crowded, rfl⟩
  have h := shadowed_generated hok rfl
  exact ⟨hok, rfl, (h.1 .vector2).trans (by decide), h.2.2.2.trans (by decide)⟩

end Accessor

end ActionLookup
