import Mathlib.Data.List.Basic
import ActionLookup.Accessor.Dispatch
import ActionLookup.Proofs.Script.Lines
import ActionLookup.Proofs.Schema.Reachable

/-!
Each accessor written out on its own. The one script that writes all four drafts at once appends
to every draft exactly its accessor (`dispatch_appends_rendering`).
-/

namespace ActionLookup

open Text

namespace Accessor

theorem signature_vector_qualified (settings : Settings) :
    signature settings ⟨.vector2, true⟩ =
      "public static Vector2 " ++ settings.vectorFunction ++ "(string actionName, string mapName)" := rfl

theorem signature_vector_unqualified (settings : Settings) :
    signature settings ⟨.vector2, false⟩ =
      "public static Vector2 " ++ settings.vectorFunction ++ "(string actionName)" := rfl

theorem signature_boolean_qualified (settings : Settings) :
    signature settings ⟨.boolean, true⟩ =
      "public static bool " ++ settings.buttonFunction
        ++ "(string actionName, bool held, string mapName)" := rfl

theorem signature_boolean_unqualified (settings : Settings) :
    signature settings ⟨.boolean, false⟩ =
      "public static bool " ++ settings.buttonFunction ++ "(string actionName, bool held)" := rfl

theorem label_eq (name : String) : label name = "case " ++ quote name ++ ":" := rfl

theorem target_eq (holder : String) (g : Group) (b : Binding) :
    target holder g b = holder ++ "." ++ g.identifier ++ "." ++ b.identifier := rfl

theorem returnLive_vector2 (target : String) :
    returnLive .vector2 target = "return " ++ target ++ ".ReadValue<Vector2>();" := rfl

theorem returnLive_boolean (target : String) :
    returnLive .boolean target =
      "return held ? " ++ target ++ ".triggered : " ++ target ++ ".ReadValue<bool>();" := rfl

def armLines (level : Nat) (holder : String) (p : Group × Binding) : List Line :=
  [.indented level s!"case {quote p.2.name}:",
    .indented (level + 1)
      (returnLive p.2.valueType s!"{holder}.{p.1.identifier}.{p.2.identifier}")]

def defaultLines (level : Nat) : List Line :=
  [.indented level "default:", .indented (level + 1) "break;"]

def sectionLines (holder : String) (t : ValueType) (g : Group) : List Line :=
  [.indented 2 s!"case {quote g.name}:", .indented 3 "switch(actionName)", .indented 3 openBrace]
    ++ (g.ofType t).flatMap (fun b => armLines 4 holder (g, b))
    ++ defaultLines 4
    ++ [.indented 3 closeBrace, .indented 3 "break;"]

def choiceLines (schema : Schema) : Tag → List Line
  | ⟨t, true⟩ => schema.groups.flatMap (sectionLines schema.holder t)
  | ⟨t, false⟩ => (schema.reachable t).flatMap (armLines 2 schema.holder)

def rendering (schema : Schema) (settings : Settings) (tag : Tag) : List Line :=
  [.indented 0 (signature settings tag), .indented 0 openBrace,
    .indented 1 s!"{schema.holder}.Enable();", .bare,
    .indented 1 (if tag.qualified then "switch(mapName)" else "switch(actionName)"),
    .indented 1 openBrace]
    ++ choiceLines schema tag
    ++ defaultLines 2
    ++ [.indented 1 closeBrace, .indented 1 s!"{schema.holder}.Disable();",
      .indented 1 (returnRest tag.valueType), .indented 0 closeBrace]

variable {ν : Type}

theorem armLine_eq (a : Arm) (text : String) :
    (armLine a text : Script ν) = .line (armPattern a) text := by
  by_cases h : a.leads = true <;> simp [armLine, armPattern, h, Script.lineToType]

theorem isNested_arm (holder : String) (g : Group) (a : Arm) :
    (arm holder g a : Script ν).isNested = true := by
  simp only [arm, armLine_eq]
  rfl

theorem isNested_group (holder : String) (sec : Section) :
    (group holder sec : Script ν).isNested = true := by
  have harms : (Script.all (sec.arms.map (arm holder sec.group)) : Script ν).isNested = true := by
    refine Script.isNested_all fun s hs => ?_
    obtain ⟨a, _, rfl⟩ := List.mem_map.mp hs
    exact isNested_arm holder sec.group a
  simp [group, Script.all, Script.isNested, Script.lineToQualified, Script.line, defaultArm, harms]

theorem isNested_dispatch (schema : Schema) (settings : Settings) :
    (dispatch schema settings : Script ν).isNested = true := by
  have hgroups : (Script.all (schema.sections.map (group schema.holder)) : Script ν).isNested = true := by
    refine Script.isNested_all fun s hs => ?_
    obtain ⟨sec, _, rfl⟩ := List.mem_map.mp hs
    exact isNested_group schema.holder sec
  simp [dispatch, Script.all, Script.isNested, Script.lineToAll, Script.line, defaultArm, hgroups]

theorem rise_line (pattern : TagPattern) (text : String) (tag : Tag) :
    (Script.line pattern text : Script ν).rise tag = 0 := rfl

theorem rise_defaultArm_le (pattern : TagPattern) (tag : Tag) :
    (defaultArm pattern : Script ν).rise tag ≤ 1 := by
  simp only [defaultArm, Script.rise, rise_line]
  split <;> decide

theorem rise_arm_le (holder : String) (g : Group) (a : Arm) (tag : Tag) :
    (arm holder g a : Script ν).rise tag ≤ 1 := by
  simp only [arm, armLine_eq, Script.rise, rise_line]
  split <;> decide

theorem rise_group_le (holder : String) (sec : Section) (tag : Tag) :
    (group holder sec : Script ν).rise tag ≤ 3 := by
  have harms : (Script.all (sec.arms.map (arm holder sec.group)) : Script ν).rise tag ≤ 1 := by
    refine Script.rise_all_le fun s hs => ?_
    obtain ⟨a, _, rfl⟩ := List.mem_map.mp hs
    exact rise_arm_le holder sec.group a tag
  have hdefault : (defaultArm (.ofQualified true) : Script ν).rise tag ≤ 1 := rise_defaultArm_le _ tag
  simp only [group, Script.all, Script.rise, Script.lineToQualified, rise_line]
  split <;> omega

theorem rise_dispatch_le (schema : Schema) (settings : Settings) (tag : Tag) :
    (dispatch schema settings : Script ν).rise tag ≤ 5 := by
  have hgroups : (Script.all (schema.sections.map (group schema.holder)) : Script ν).rise tag ≤ 3 := by
    refine Script.rise_all_le fun s hs => ?_
    obtain ⟨sec, _, rfl⟩ := List.mem_map.mp hs
    exact rise_group_le schema.holder sec tag
  have hdefault : (defaultArm .all : Script ν).rise tag ≤ 1 := rise_defaultArm_le _ tag
  simp only [dispatch, Script.all, Script.rise, Script.lineToAll, rise_line, TagPattern.covers_all, if_true]
  omega

theorem linesFor_line (tag : Tag) (pattern : TagPattern) (text : String) :
    (Script.line pattern text : Script ν).linesFor tag =
      if pattern.covers tag then [.indented 0 text] else [] := rfl

theorem linesFor_defaultArm {tag : Tag} {pattern : TagPattern} (h : pattern.covers tag = true) :
    (defaultArm pattern : Script ν).linesFor tag = defaultLines 0 := by
  simp [defaultArm, defaultLines, Script.linesFor, linesFor_line, h, Line.raise]

theorem covers_armPattern (a : Arm) (tag : Tag) :
    (armPattern a).covers tag =
      (a.binding.valueType == tag.valueType && (a.leads || tag.qualified)) := by
  obtain ⟨t, q⟩ := tag
  unfold armPattern
  cases a.leads <;> cases q <;> cases a.binding.valueType <;> cases t <;> rfl

theorem linesFor_arm (tag : Tag) (holder : String) (g : Group) (a : Arm) :
    (arm holder g a : Script ν).linesFor tag =
      if (armPattern a).covers tag then armLines 0 holder (g, a.binding) else [] := by
  simp only [arm, armLine_eq, Script.linesFor, linesFor_line]
  split
  · rfl
  · rfl

theorem linesFor_arms_qualified (t : ValueType) (holder : String) (sec : Section) :
    (Script.all (sec.arms.map (arm holder sec.group)) : Script ν).linesFor ⟨t, true⟩ =
      ((sec.arms.map Arm.binding).filter fun b => b.valueType = t).flatMap
        fun b => armLines 0 holder (sec.group, b) := by
  rw [Script.linesFor_all, List.flatMap_map]
  induction sec.arms with
  | nil => rfl
  | cons a arms ih =>
      rw [List.flatMap_cons, ih, linesFor_arm, covers_armPattern, List.map_cons, List.filter_cons]
      by_cases ht : a.binding.valueType = t <;> simp [ht]

theorem linesFor_arms_unqualified (t : ValueType) (holder : String) (sec : Section) :
    (Script.all (sec.arms.map (arm holder sec.group)) : Script ν).linesFor ⟨t, false⟩ =
      (((sec.arms.map fun a => (sec.group, a)).filter fun p =>
        p.2.leads && p.2.binding.valueType = t).map fun p => (p.1, p.2.binding)).flatMap
          (armLines 0 holder) := by
  rw [Script.linesFor_all, List.flatMap_map]
  induction sec.arms with
  | nil => rfl
  | cons a arms ih =>
      rw [List.flatMap_cons, ih, linesFor_arm, covers_armPattern, List.map_cons, List.filter_cons]
      by_cases ht : a.binding.valueType = t <;> cases a.leads <;> simp [ht]

theorem linesFor_group_qualified (t : ValueType) (holder : String) (sec : Section)
    (hsec : sec.arms.map Arm.binding = sec.group.bindings) :
    ((group holder sec : Script ν).linesFor ⟨t, true⟩).map (Line.raise ∘ Line.raise) =
      sectionLines holder t sec.group := by
  simp [group, Script.all, Script.linesFor, Script.lineToQualified, linesFor_line,
    linesFor_arms_qualified, linesFor_defaultArm, hsec, sectionLines, Group.ofType, Line.raise, List.map_flatMap,
    armLines, defaultLines, label, switchOnAction]

theorem linesFor_group_unqualified (t : ValueType) (holder : String) (sec : Section) :
    (group holder sec : Script ν).linesFor ⟨t, false⟩ =
      (Script.all (sec.arms.map (arm holder sec.group)) : Script ν).linesFor ⟨t, false⟩ := by
  simp [group, Script.all, Script.linesFor, Script.lineToQualified, linesFor_line, defaultArm]

theorem linesFor_groups_qualified (schema : Schema) (t : ValueType) :
    ((Script.all (schema.sections.map (group schema.holder)) : Script ν).linesFor ⟨t, true⟩).map
        (Line.raise ∘ Line.raise) = choiceLines schema ⟨t, true⟩ := by
  have hgroups : schema.groups = schema.sections.map Section.group :=
    (map_group_sectionsAfter [] schema.groups).symm
  rw [Script.linesFor_all, List.flatMap_map, List.map_flatMap, choiceLines, hgroups, List.flatMap_map]
  refine List.flatMap_congr fun sec hsec => ?_
  exact linesFor_group_qualified t schema.holder sec (map_binding_arms hsec)

theorem linesFor_groups_unqualified (schema : Schema) (t : ValueType) :
    ((Script.all (schema.sections.map (group schema.holder)) : Script ν).linesFor ⟨t, false⟩).map
        (Line.raise ∘ Line.raise) = choiceLines schema ⟨t, false⟩ := by
  rw [Script.linesFor_all, List.flatMap_map]
  simp only [linesFor_group_unqualified, linesFor_arms_unqualified]
  rw [← List.flatMap_assoc, ← List.map_flatMap, ← List.filter_flatMap]
  change ((List.map _ (schema.placedArms.filter _)).flatMap _).map _ = _
  rw [schema.filter_leads_placedArms, List.map_flatMap]
  rfl

theorem linesFor_dispatch (schema : Schema) (settings : Settings) (tag : Tag) :
    (dispatch schema settings : Script ν).linesFor tag = rendering schema settings tag := by
  have hchoice : ((Script.all (schema.sections.map (group schema.holder)) : Script ν).linesFor tag).map
      (Line.raise ∘ Line.raise) = choiceLines schema tag := by
    obtain ⟨t, q⟩ := tag
    cases q with
    | false => exact linesFor_groups_unqualified schema t
    | true => exact linesFor_groups_qualified schema t
  have hdefault : (defaultArm TagPattern.all : Script ν).linesFor tag = defaultLines 0 :=
    linesFor_defaultArm (TagPattern.covers_all tag)
  simp [dispatch, Script.all, Script.linesFor, Script.lineToAll, linesFor_line, hdefault, hchoice,
    rendering, Line.raise, defaultLines, outerSwitch, switchOnAction]

theorem appends_dispatch (schema : Schema) (settings : Settings) {d : Drafts} (h : d.HasRoom fun _ => 5) :
    ((dispatch schema settings : Script ν).run d).Appends d fun tag => rendering schema settings tag := by
  have hrun := Script.run_of_isNested (isNested_dispatch schema settings)
    (h.mono (rise_dispatch_le (ν := ν) schema settings))
  simpa only [linesFor_dispatch] using hrun

theorem hasRoom_startWithin {limit : Option Nat} {depth levels : Nat} (h : ∀ n ∈ limit, depth + levels < n)
    (ending : LineEnding) : (Drafts.startWithin limit depth ending).HasRoom fun _ => levels := by
  intro n hn tag
  rw [Drafts.get_startWithin]
  exact h n hn

theorem text_dispatch (schema : Schema) (settings : Settings) {limit : Option Nat} {depth : Nat}
    (h : ∀ n ∈ limit, depth + 5 < n) (ending : LineEnding) (tag : Tag) :
    (((dispatch schema settings : Script Empty).run (Drafts.startWithin limit depth ending)).drafts.get tag).text =
      Line.renderAll ending depth (rendering schema settings tag) := by
  rw [(appends_dispatch schema settings (hasRoom_startWithin h ending)).get, Drafts.get_startWithin]
  simp [Draft.writeLines, Drafts.startWithin]

/-- Natural numbers have room for any levels (`hasRoom_of_limit_eq_none`), words have it below their limit. -/
theorem dispatch_appends_rendering (schema : Schema) (settings : Settings) {d : Drafts}
    (h : d.HasRoom fun _ => 5) :
    ((dispatch schema settings : Script ν).run d).stopped = false ∧
      ∀ tag,
        (((dispatch schema settings : Script ν).run d).drafts.get tag).depth = (d.get tag).depth ∧
        (((dispatch schema settings : Script ν).run d).drafts.get tag).text =
          (d.get tag).text ++
            Line.renderAll d.ending (d.get tag).depth (rendering schema settings tag) := by
  have hrun : ((dispatch schema settings : Script ν).run d).Appends d _ := appends_dispatch schema settings h
  refine ⟨hrun.stopped, fun tag => ⟨hrun.depth tag, ?_⟩⟩
  rw [hrun.get tag]
  rfl

def jumpSchema : Schema := ⟨"Pad", [⟨"Say", [⟨"Jump", .boolean⟩]⟩]⟩

/-- One of the depths is no machine word. -/
def naturalDrafts : Drafts := ⟨⟨⟨"", 0⟩, ⟨"x", 3⟩, ⟨"y", UInt64.size⟩, ⟨"", 1⟩⟩, .crlf, none⟩

theorem dispatch_appends_rendering_natural :
    (naturalDrafts.HasRoom fun _ => 5) ∧
      ((dispatch jumpSchema .default : Script Empty).run naturalDrafts).stopped = false ∧
      (((dispatch jumpSchema .default : Script Empty).run naturalDrafts).drafts.get ⟨.boolean, true⟩).depth =
        UInt64.size ∧
      (((dispatch jumpSchema .default : Script Empty).run naturalDrafts).drafts.get ⟨.vector2, false⟩).text =
        "x" ++ Line.renderAll .crlf 3 (rendering jumpSchema .default ⟨.vector2, false⟩) := by
  have hroom : naturalDrafts.HasRoom fun _ => 5 := Drafts.hasRoom_of_limit_eq_none rfl _
  obtain ⟨hstopped, hdrafts⟩ := dispatch_appends_rendering (ν := Empty) jumpSchema .default hroom
  exact ⟨hroom, hstopped, (hdrafts ⟨.boolean, true⟩).1, (hdrafts ⟨.vector2, false⟩).2⟩

end Accessor

end ActionLookup
