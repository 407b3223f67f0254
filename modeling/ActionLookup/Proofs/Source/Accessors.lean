import ActionLookup.Proofs.Generation.Success
import ActionLookup.Proofs.Source.Closed

namespace ActionLookup

open Text

namespace Accessor

def dispatchNames (schema : Schema) : Tag → List String
  | ⟨t, true⟩ => schema.groups.flatMap fun g => g.name :: (g.ofType t).map Binding.name
  | ⟨t, false⟩ => (schema.reachable t).map fun p => p.2.name

section Parts

variable {ending : LineEnding} {depth : Nat} {schema : Schema} {settings : Settings}

theorem avoids_marks_identifier {name : String} (h : Name.isIdentifier name = true) : Avoids marks name :=
  Avoids.mono (by decide) (Avoids.of_isIdentifier h)

theorem avoids_marks_holder (h : schema.Valid) : Avoids marks schema.holder :=
  Avoids.lowercase (by decide) (avoids_marks_identifier h.name)

theorem avoids_marks_target (h : schema.Valid) {g : Group} {b : Binding} (hg : g ∈ schema.groups)
    (hb : b ∈ g.bindings) : Avoids marks (target schema.holder g b) := by
  have hgroup : Avoids marks g.identifier := avoids_marks_identifier (h.groups g hg)
  have hbinding : Avoids marks b.identifier := avoids_marks_identifier (h.bindings g hg b hb)
  simp only [target_eq, Avoids.append_iff, avoids_marks_holder h, hgroup, hbinding]
  simp [Avoids, marks]

theorem closed_signature (h : settings.Usable) (tag : Tag) : Closed (signature settings tag) [] := by
  have hv : Avoids marks ("public static Vector2 " ++ settings.vectorFunction) :=
    Avoids.append_iff.mpr ⟨by simp [Avoids, marks], avoids_marks_identifier h.vectorFunction⟩
  have hb : Avoids marks ("public static bool " ++ settings.buttonFunction) :=
    Avoids.append_iff.mpr ⟨by simp [Avoids, marks], avoids_marks_identifier h.buttonFunction⟩
  have htail (inside : String) (hi : Avoids marks inside) : Closed ("(" ++ inside ++ ")") [] :=
    (Closed.of_avoids hi).parenthesized
  obtain ⟨t, q⟩ := tag
  cases t <;> cases q
  · rw [signature_vector_unqualified]
    exact (Closed.of_avoids hv).append (htail "string actionName" (by simp [Avoids, marks]))
  · rw [signature_vector_qualified]
    exact (Closed.of_avoids hv).append
      (htail "string actionName, string mapName" (by simp [Avoids, marks]))
  · rw [signature_boolean_unqualified]
    exact (Closed.of_avoids hb).append
      (htail "string actionName, bool held" (by simp [Avoids, marks]))
  · rw [signature_boolean_qualified]
    exact (Closed.of_avoids hb).append
      (htail "string actionName, bool held, string mapName" (by simp [Avoids, marks]))

theorem closed_label (name : String) : Closed (label name) [written name] := by
  have hcase : Closed "case " [] := Closed.of_avoids (by simp [Avoids, marks])
  have hcolon : Closed ":" [] := Closed.of_avoids (by simp [Avoids, marks])
  exact (hcase.append (Closed.quote name)).append hcolon

theorem closed_returnLive {target : String} (h : Avoids marks target) (t : ValueType) :
    Closed (returnLive t target) [] := by
  have htarget : Closed target [] := Closed.of_avoids h
  cases t with
  | vector2 =>
      have hread : Closed ".ReadValue<Vector2>();" [] :=
        Closed.call ".ReadValue<Vector2>" "" ";"
          (by simp [Avoids, marks]) (by simp [Avoids]) (by simp [Avoids, marks])
      rw [returnLive_vector2]
      exact ((Closed.of_avoids (by simp [Avoids, marks])).append htarget).append hread
  | boolean =>
      have hread : Closed ".ReadValue<bool>();" [] :=
        Closed.call ".ReadValue<bool>" "" ";"
          (by simp [Avoids, marks]) (by simp [Avoids]) (by simp [Avoids, marks])
      have htriggered : Closed ".triggered : " [] := Closed.of_avoids (by simp [Avoids, marks])
      rw [returnLive_boolean]
      exact ((((Closed.of_avoids (by simp [Avoids, marks])).append htarget).append htriggered).append
        htarget).append hread

theorem closed_returnRest (t : ValueType) : Closed (returnRest t) [] := by
  cases t with
  | vector2 =>
      exact Closed.call "return new Vector2" "0f, 0f" ";"
        (by simp [Avoids, marks]) (by simp [Avoids, marks]) (by simp [Avoids, marks])
  | boolean =>
      change Closed "return false;" []
      exact Closed.of_avoids (by simp [Avoids, marks])

theorem closed_enable (h : schema.Valid) : Closed s!"{schema.holder}.Enable();" [] := by
  have hcall : Closed ".Enable();" [] :=
    Closed.call ".Enable" "" ";"
      (by simp [Avoids, marks]) (by simp [Avoids]) (by simp [Avoids, marks])
  exact (Closed.of_avoids (avoids_marks_holder h)).append hcall

theorem closed_disable (h : schema.Valid) : Closed s!"{schema.holder}.Disable();" [] := by
  have hcall : Closed ".Disable();" [] :=
    Closed.call ".Disable" "" ";"
      (by simp [Avoids, marks]) (by simp [Avoids]) (by simp [Avoids, marks])
  exact (Closed.of_avoids (avoids_marks_holder h)).append hcall

theorem closed_switch_action : Closed "switch(actionName)" [] :=
  Closed.call "switch" "actionName" ""
    (by simp [Avoids, marks]) (by simp [Avoids, marks]) (by simp [Avoids])

theorem closed_switch_map : Closed "switch(mapName)" [] :=
  Closed.call "switch" "mapName" ""
    (by simp [Avoids, marks]) (by simp [Avoids, marks]) (by simp [Avoids])

theorem closed_break : Closed "break;" [] := Closed.of_avoids (by simp [Avoids, marks])

theorem closed_defaultLines (level : Nat) :
    Closed (Line.renderAll ending depth (defaultLines level)) [] := by
  have hdefault : Closed "default:" [] := Closed.of_avoids (by simp [Avoids, marks])
  exact Line.closed_append (Line.closed_indented hdefault _) (Line.closed_indented closed_break _)

theorem closed_armLines (h : schema.Valid) {p : Group × Binding} (hp : p ∈ schema.placed) (level : Nat) :
    Closed (Line.renderAll ending depth (armLines level schema.holder p)) [written p.2.name] := by
  obtain ⟨g, hg, hmap⟩ := List.mem_flatMap.mp hp
  obtain ⟨b, hb, rfl⟩ := List.mem_map.mp hmap
  exact Line.closed_append (Line.closed_indented (closed_label b.name) _)
    (Line.closed_indented (closed_returnLive (avoids_marks_target h hg hb) _) _)

theorem closed_sectionLines (h : schema.Valid) {g : Group} (hg : g ∈ schema.groups) (t : ValueType) :
    Closed (Line.renderAll ending depth (sectionLines schema.holder t g))
      (written g.name :: (g.ofType t).map fun b => written b.name) := by
  have harms : Closed (Line.renderAll ending depth
      ((g.ofType t).flatMap fun b => armLines 4 schema.holder (g, b)))
        ((g.ofType t).flatMap fun b => [written b.name]) := by
    refine Line.closed_flatMap fun b hb => closed_armLines h (p := (g, b)) ?_ 4
    exact List.mem_flatMap.mpr ⟨g, hg, List.mem_map_of_mem (List.mem_filter.mp hb).1⟩
  rw [← List.map_eq_flatMap] at harms
  have hblock := Line.closed_block (Line.closed_append harms (closed_defaultLines 4)) 3 3
  have hsection := Line.closed_append
    (Line.closed_append (Line.closed_indented (closed_label g.name) 2)
      (Line.closed_indented closed_switch_action 3))
    (Line.closed_append hblock (Line.closed_indented closed_break 3))
  have hlines : sectionLines schema.holder t g =
      [Line.indented 2 (label g.name)] ++ [Line.indented 3 "switch(actionName)"] ++
        (Line.indented 3 openBrace :: (((g.ofType t).flatMap fun b => armLines 4 schema.holder (g, b)) ++
          defaultLines 4 ++ [Line.indented 3 closeBrace]) ++ [Line.indented 3 "break;"]) := by
    simp [sectionLines, label]
  rw [hlines]
  simpa using hsection

theorem closed_choiceLines (h : schema.Valid) (tag : Tag) :
    Closed (Line.renderAll ending depth (choiceLines schema tag)) ((dispatchNames schema tag).map written) := by
  obtain ⟨t, q⟩ := tag
  cases q with
  | false =>
      have harms : Closed
          (Line.renderAll ending depth ((schema.reachable t).flatMap (armLines 2 schema.holder)))
          ((schema.reachable t).flatMap fun p => [written p.2.name]) :=
        Line.closed_flatMap fun p hp =>
          closed_armLines h (List.mem_filter.mp (mem_of_mem_firstOfName hp)).1 2
      rw [← List.map_eq_flatMap] at harms
      simpa [choiceLines, dispatchNames, Function.comp_def] using harms
  | true =>
      have hsections : Closed
          (Line.renderAll ending depth (schema.groups.flatMap (sectionLines schema.holder t)))
          (schema.groups.flatMap fun g => written g.name :: (g.ofType t).map fun b => written b.name) :=
        Line.closed_flatMap fun g hg => closed_sectionLines h hg t
      simpa [choiceLines, dispatchNames, List.map_flatMap, Function.comp_def] using hsections

theorem closed_rendering (h : schema.Valid) (hs : settings.Usable) (tag : Tag) :
    Closed (Line.renderAll ending depth (rendering schema settings tag))
      ((dispatchNames schema tag).map written) := by
  have hswitch : Closed (if tag.qualified then "switch(mapName)" else "switch(actionName)") [] := by
    cases tag.qualified with
    | true => exact closed_switch_map
    | false => exact closed_switch_action
  have hinside : Closed (Line.renderAll ending depth (choiceLines schema tag ++ defaultLines 2))
      ((dispatchNames schema tag).map written ++ []) :=
    Line.closed_append (closed_choiceLines h tag) (closed_defaultLines 2)
  have hchoice := Line.closed_block hinside 1 1
  have hbefore : Closed (Line.renderAll ending depth [Line.indented 1 s!"{schema.holder}.Enable();", Line.bare,
      Line.indented 1 (if tag.qualified then "switch(mapName)" else "switch(actionName)")]) [] := by
    refine Line.closed_all ?_
    simp only [List.forall_mem_cons]
    exact ⟨closed_enable h, Closed.empty, hswitch, List.forall_mem_nil _⟩
  have hafter : Closed (Line.renderAll ending depth [Line.indented 1 s!"{schema.holder}.Disable();",
      Line.indented 1 (returnRest tag.valueType)]) [] := by
    refine Line.closed_all ?_
    simp only [List.forall_mem_cons]
    exact ⟨closed_disable h, closed_returnRest _, List.forall_mem_nil _⟩
  have hbody := Line.closed_append (Line.closed_indented (closed_signature hs tag) 0)
    (Line.closed_block (Line.closed_append hbefore (Line.closed_append hchoice hafter)) 0 0)
  have hlines : rendering schema settings tag =
      [Line.indented 0 (signature settings tag)] ++ (Line.indented 0 openBrace ::
        ([Line.indented 1 s!"{schema.holder}.Enable();", Line.bare,
          Line.indented 1 (if tag.qualified then "switch(mapName)" else "switch(actionName)")] ++
            ((Line.indented 1 openBrace ::
                (choiceLines schema tag ++ defaultLines 2 ++ [Line.indented 1 closeBrace])) ++
              [Line.indented 1 s!"{schema.holder}.Disable();", Line.indented 1 (returnRest tag.valueType)]) ++
                [Line.indented 0 closeBrace])) := by
    simp [rendering]
  rw [hlines]
  simpa using hbody

end Parts

end Accessor

end ActionLookup
