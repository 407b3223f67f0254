import Mathlib.Data.List.Nodup
import ActionLookup.Proofs.Accessor.Shadowing
import ActionLookup.Proofs.Schema.Acceptance

/-!
The labels of every `switch` of an accessor, read off its lines. By name alone no label stands twice,
whatever the schema; by both names none does if the schema has no problem (`labels_distinct`).
-/

namespace ActionLookup

open Text

namespace Accessor

/-- The labels of a block itself, up to its closing brace; blocks inside it are passed over. -/
def labelsIn : Nat → List String → List String
  | _, [] => []
  | depth, line :: rest =>
      if line = openBrace then labelsIn (depth + 1) rest
      else if line = closeBrace then
        match depth with
        | 0 => []
        | outer + 1 => labelsIn outer rest
      else if depth = 0 ∧ startsWith "case " line then line :: labelsIn depth rest
      else labelsIn depth rest

def switches : List String → List (List String)
  | line :: brace :: rest =>
      if (chosen? line).isSome ∧ brace = openBrace then labelsIn 0 rest :: switches (brace :: rest)
      else switches (brace :: rest)
  | _ => []

section Labels

variable {depth : Nat} {line : String} {rest : List String} {holder : String}

theorem labelsIn_other (ho : line ≠ openBrace) (hc : line ≠ closeBrace)
    (hl : startsWith "case " line = false) : labelsIn depth (line :: rest) = labelsIn depth rest := by
  have hnot : ¬(depth = 0 ∧ startsWith "case " line = true) := by simp [hl]
  exact (if_neg ho).trans ((if_neg hc).trans (if_neg hnot))

theorem labelsIn_openBrace : labelsIn depth (openBrace :: rest) = labelsIn (depth + 1) rest :=
  if_pos rfl

theorem labelsIn_closeBrace : labelsIn (depth + 1) (closeBrace :: rest) = labelsIn depth rest := by
  have hne : closeBrace ≠ openBrace := by decide
  exact (if_neg hne).trans (if_pos rfl)

theorem labelsIn_end : labelsIn 0 (closeBrace :: rest) = [] := by
  have hne : closeBrace ≠ openBrace := by decide
  exact (if_neg hne).trans (if_pos rfl)

theorem startsWith_case_label (name : String) : startsWith "case " (label name) = true := by
  simp [startsWith, label_eq]

theorem labelsIn_label (name : String) :
    labelsIn depth (label name :: rest) =
      if depth = 0 then label name :: labelsIn depth rest else labelsIn depth rest := by
  refine (if_neg (label_ne_openBrace name)).trans ((if_neg (label_ne_closeBrace name)).trans ?_)
  simp only [startsWith_case_label, and_true]

theorem labelsIn_switch : labelsIn depth ("switch(actionName)" :: rest) = labelsIn depth rest :=
  labelsIn_other (by decide) (by decide) (startsWith_case_of_initial (by simp [initial]))

theorem labelsIn_default : labelsIn depth ("default:" :: rest) = labelsIn depth rest :=
  labelsIn_other (by decide) (by decide) (startsWith_case_of_initial (by simp [initial]))

theorem labelsIn_break : labelsIn depth ("break;" :: rest) = labelsIn depth rest :=
  labelsIn_other (by decide) (by decide) (startsWith_case_of_initial (by simp [initial]))

theorem labelsIn_returnLive (t : ValueType) (target : String) :
    labelsIn depth (returnLive t target :: rest) = labelsIn depth rest := by
  refine labelsIn_other (ne_of_initial ?_) (ne_of_initial ?_) (startsWith_case_of_initial ?_)
  · rw [initial_returnLive, initial_openBrace]; decide
  · rw [initial_returnLive, initial_closeBrace]; decide
  · rw [initial_returnLive]; decide

theorem labelsIn_arms (ps : List (Group × Binding)) :
    labelsIn depth (ps.flatMap (armTexts holder) ++ rest) =
      (if depth = 0 then ps.map fun p => label p.2.name else []) ++ labelsIn depth rest := by
  induction ps with
  | nil => simp
  | cons p ps ih =>
      rw [List.flatMap_cons, armTexts, List.append_assoc, List.cons_append, List.cons_append,
        List.nil_append, labelsIn_label, labelsIn_returnLive, ih]
      split <;> rfl

theorem labelsIn_section (t : ValueType) (g : Group) :
    labelsIn 0 (sectionTexts holder t g ++ rest) = label g.name :: labelsIn 0 rest := by
  rw [sectionTexts_append, labelsIn_label, if_pos rfl, labelsIn_switch, labelsIn_openBrace,
    labelsIn_arms, if_neg (Nat.succ_ne_zero _), List.nil_append, labelsIn_default, labelsIn_break,
    labelsIn_closeBrace, labelsIn_break]

theorem labelsIn_sections (t : ValueType) (gs : List Group) :
    labelsIn 0 (gs.flatMap (sectionTexts holder t) ++ rest) =
      (gs.map fun g => label g.name) ++ labelsIn 0 rest := by
  induction gs with
  | nil => rfl
  | cons g gs ih =>
      rw [List.flatMap_cons, List.append_assoc, labelsIn_section, ih]
      rfl

end Labels

section Switches

variable {line : String} {rest : List String} {holder : String}

theorem chosen?_of_initial (h : initial line ≠ some 's') : chosen? line = none := by
  have hstart : ¬startsWith "switch(" line = true := by
    intro hstart
    obtain ⟨more, hmore⟩ := toList_of_startsWith hstart
    exact h (by rw [initial, hmore]; simp)
  simp [chosen?, hstart]

theorem chosen?_of_getLast? (h : line.toList.getLast? = some ';') : chosen? line = none := by
  simp [chosen?, endsWith, h]

theorem switches_other (h : chosen? line = none) : switches (line :: rest) = switches rest := by
  cases rest with
  | nil => rfl
  | cons next rest => simp only [switches, h, Option.isSome_none, Bool.false_eq_true, false_and, if_false]

theorem switches_choose {parameter : String} (h : chosen? line = some parameter) :
    switches (line :: openBrace :: rest) = labelsIn 0 rest :: switches rest := by
  have hopen : chosen? openBrace = none := chosen?_of_initial (by simp [initial_openBrace])
  simp only [switches, h, Option.isSome_some, and_self, if_true]
  rw [switches_other hopen]

theorem switches_label (name : String) : switches (label name :: rest) = switches rest :=
  switches_other (chosen?_of_initial (by rw [initial_label]; decide))

theorem switches_default : switches ("default:" :: rest) = switches rest :=
  switches_other (chosen?_of_initial (by simp [initial]))

theorem switches_break : switches ("break;" :: rest) = switches rest :=
  switches_other (chosen?_of_initial (by simp [initial]))

theorem switches_closeBrace : switches (closeBrace :: rest) = switches rest :=
  switches_other (chosen?_of_initial (by simp [initial_closeBrace]))

theorem switches_arms (ps : List (Group × Binding)) :
    switches (ps.flatMap (armTexts holder) ++ rest) = switches rest := by
  induction ps with
  | nil => rfl
  | cons p ps ih =>
      have hreturn : chosen? (returnLive p.2.valueType (target holder p.1 p.2)) = none :=
        chosen?_of_initial (by rw [initial_returnLive]; decide)
      rw [List.flatMap_cons, armTexts, List.append_assoc, List.cons_append, List.cons_append,
        List.nil_append, switches_label, switches_other hreturn, ih]

theorem chosen?_switch_action : chosen? "switch(actionName)" = some "actionName" := by
  simp [chosen?, startsWith, endsWith]

theorem chosen?_switch_map : chosen? "switch(mapName)" = some "mapName" := by
  simp [chosen?, startsWith, endsWith]

theorem switches_sections (t : ValueType) (gs : List Group) :
    switches (gs.flatMap (sectionTexts holder t) ++ rest) =
      (gs.map fun g => (g.ofType t).map fun b => label b.name) ++ switches rest := by
  induction gs with
  | nil => rfl
  | cons g gs ih =>
      rw [List.flatMap_cons, List.append_assoc, sectionTexts_append, switches_label,
        switches_choose chosen?_switch_action, labelsIn_arms, if_pos rfl, labelsIn_default,
        labelsIn_break, labelsIn_end, List.append_nil, switches_arms, switches_default,
        switches_break, switches_closeBrace, switches_break, ih, List.map_map]
      rfl

def labelTable (schema : Schema) : Tag → List (List String)
  | ⟨t, true⟩ =>
      (schema.groups.map fun g => label g.name) ::
        schema.groups.map fun g => (g.ofType t).map fun b => label b.name
  | ⟨t, false⟩ => [(schema.reachable t).map fun p => label p.2.name]

theorem switches_choice (schema : Schema) (tag : Tag) (rest : List String) :
    switches ((if tag.qualified then "switch(mapName)" else "switch(actionName)") :: openBrace ::
        ((choiceLines schema tag).map Line.content ++ "default:" :: "break;" :: closeBrace :: rest)) =
      labelTable schema tag ++ switches rest := by
  obtain ⟨t, q⟩ := tag
  cases q with
  | false =>
      rw [content_choiceLines_unqualified]
      simp only [Bool.false_eq_true, if_false]
      rw [switches_choose chosen?_switch_action, labelsIn_arms, if_pos rfl, labelsIn_default,
        labelsIn_break, labelsIn_end, List.append_nil, switches_arms, switches_default,
        switches_break, switches_closeBrace]
      rfl
  | true =>
      rw [content_choiceLines_qualified]
      simp only [if_true]
      rw [switches_choose chosen?_switch_map, labelsIn_sections, labelsIn_default,
        labelsIn_break, labelsIn_end, List.append_nil, switches_sections, switches_default,
        switches_break, switches_closeBrace]
      rfl

theorem switches_rendering (schema : Schema) (settings : Settings) (tag : Tag) (rest : List String) :
    switches ((rendering schema settings tag).map Line.content ++ "" :: rest) =
      labelTable schema tag ++ switches rest := by
  have hsignature : chosen? (signature settings tag) = none :=
    chosen?_of_initial (by rw [initial_signature]; decide)
  have henable : chosen? s!"{schema.holder}.Enable();" = none :=
    chosen?_of_getLast? (getLast?_append_of_some (by simp [toString]))
  have hdisable : chosen? s!"{schema.holder}.Disable();" = none :=
    chosen?_of_getLast? (getLast?_append_of_some (by simp [toString]))
  have hrest : chosen? (returnRest tag.valueType) = none :=
    chosen?_of_initial (by rw [initial_returnRest]; decide)
  have hopen : chosen? openBrace = none := chosen?_of_initial (by simp [initial_openBrace])
  have hempty : chosen? "" = none := chosen?_of_initial (by simp [initial])
  have hlines : (rendering schema settings tag).map Line.content ++ "" :: rest =
      signature settings tag :: openBrace :: s!"{schema.holder}.Enable();" :: "" ::
        (if tag.qualified then "switch(mapName)" else "switch(actionName)") :: openBrace ::
          ((choiceLines schema tag).map Line.content ++ "default:" :: "break;" :: closeBrace ::
            (s!"{schema.holder}.Disable();" :: returnRest tag.valueType :: closeBrace :: "" :: rest)) := by
    simp [rendering, defaultLines, Line.content]
  rw [hlines, switches_other hsignature, switches_other hopen, switches_other henable,
    switches_other hempty, switches_choice, switches_other hdisable, switches_other hrest,
    switches_closeBrace, switches_other hempty]

end Switches

theorem map_fst_armsOf (lines : List String) (last : String) :
    (armsOf (lines ++ [last])).map Prod.fst = lines.filter (startsWith "case ") := by
  induction lines with
  | nil => rfl
  | cons line lines ih =>
      obtain ⟨next, rest, hnext⟩ := List.exists_cons_of_ne_nil (List.append_ne_nil_of_right_ne_nil lines
        (List.cons_ne_nil last []))
      rw [hnext] at ih
      rw [List.cons_append, hnext, armsOf, List.filter_cons]
      split
      · rw [List.map_cons, ih]
      · exact ih

/-- An accessor as it is emitted into empty drafts, at any natural number as their depth. -/
def emitted (schema : Schema) (settings : Settings) (depth : Nat) (ending : LineEnding) (tag : Tag) :
    String :=
  (((dispatch schema settings : Script Empty).run (Drafts.startWithin none depth ending)).drafts.get tag).text

theorem linesOf_emitted (schema : Schema) {settings : Settings} (h : settings.Usable) (depth : Nat)
    (ending : LineEnding) (tag : Tag) :
    linesOf ending (emitted schema settings depth ending tag) =
      (rendering schema settings tag).map Line.content ++ [""] := by
  have hroom : ∀ n ∈ (none : Option Nat), depth + 5 < n := nofun
  rw [emitted, text_dispatch schema settings hroom]
  exact Line.linesOf_renderAll (avoids_breaks_rendering schema h tag)

theorem filter_case_unqualified (schema : Schema) (settings : Settings) (t : ValueType) :
    ((rendering schema settings ⟨t, false⟩).map Line.content ++ [""]).filter (startsWith "case ") =
      ((schema.reachable t).map fun p => p.2.name).map label := by
  have harms := congrArg (List.map Prod.fst) (armsOf_unqualified schema settings t)
  rw [map_fst_armsOf, List.map_map] at harms
  have hlast : [""].filter (startsWith "case ") = [] := by simp [startsWith]
  rw [List.filter_append, hlast, List.append_nil, harms, List.map_map]
  rfl

theorem nodup_map_label {names : List String} (h : names.Nodup) : (names.map label).Nodup :=
  h.map fun _ _ => label_injective

theorem nodup_labelTable {schema : Schema} (h : schema.Valid) (t : ValueType) :
    ∀ labels ∈ labelTable schema ⟨t, true⟩, labels.Nodup := by
  have houter : (schema.groups.map fun g => label g.name).Nodup := by
    simpa only [List.map_map, Function.comp_def] using nodup_map_label h.groups_distinct
  have hinner (g : Group) (hg : g ∈ schema.groups) : ((g.ofType t).map fun b => label b.name).Nodup := by
    have hnames : ((g.ofType t).map fun b => b.name).Nodup :=
      (h.bindings_distinct g hg).sublist (List.filter_sublist.map _)
    simpa only [List.map_map, Function.comp_def] using nodup_map_label hnames
  intro labels hlabels
  rcases List.mem_cons.mp hlabels with rfl | hlabels
  · exact houter
  · obtain ⟨g, hg, rfl⟩ := List.mem_map.mp hlabels
    exact hinner g hg

theorem labels_distinct {settings : Settings} (h : settings.problem? = none) (schema : Schema) (depth : Nat)
    (ending : LineEnding) :
    (∀ t, ((linesOf ending (emitted schema settings depth ending ⟨t, false⟩)).filter
        (startsWith "case ")).Nodup) ∧
      (schema.validate = .ok () → ∀ t,
        switches (linesOf ending (emitted schema settings depth ending ⟨t, true⟩)) =
            (schema.groups.map fun g => label g.name) ::
              schema.groups.map (fun g => (g.ofType t).map fun b => label b.name) ∧
          ∀ labels ∈ switches (linesOf ending (emitted schema settings depth ending ⟨t, true⟩)),
            labels.Nodup) := by
  have husable := Settings.problem?_eq_none_iff.mp h
  simp only [linesOf_emitted schema husable]
  refine ⟨fun t => ?_, fun hvalid t => ?_⟩
  · rw [filter_case_unqualified]
    exact nodup_map_label (nodup_firstOfName [] _)
  · have htable := switches_rendering schema settings ⟨t, true⟩ []
    rw [show switches [] = [] from rfl, List.append_nil] at htable
    rw [htable]
    exact ⟨rfl, nodup_labelTable (Schema.validate_eq_ok_iff.mp hvalid) t⟩

def crossedSchema : Schema :=
  ⟨"Pad", [⟨"Go Up", [⟨"Go Up", .vector2⟩, ⟨"Say", .boolean⟩, ⟨"GoUp", .vector2⟩]⟩,
    ⟨"GoUp", [⟨"Go Up", .boolean⟩, ⟨"GoUp", .vector2⟩, ⟨"Say", .boolean⟩]⟩]⟩

theorem labels_distinct_crossed :
    oddSettings.problem? = none ∧ crossedSchema.validate = .ok () ∧
      (linesOf .lf (emitted crossedSchema oddSettings 0 .lf ⟨.boolean, false⟩)).filter
          (startsWith "case ") = ["case \"Say\":", "case \"Go Up\":"] ∧
      ["case \"Say\":", "case \"Go Up\":"].Nodup ∧
      switches (linesOf .lf (emitted crossedSchema oddSettings 0 .lf ⟨.vector2, true⟩)) =
        [["case \"Go Up\":", "case \"GoUp\":"], ["case \"Go Up\":", "case \"GoUp\":"],
          ["case \"GoUp\":"]] := by
  have hsettings : oddSettings.problem? = none := by decide
  have hvalid : crossedSchema.validate = .ok () := by decide
  have h := labels_distinct hsettings crossedSchema 0 .lf
  have hlabels : (linesOf .lf (emitted crossedSchema oddSettings 0 .lf ⟨.boolean, false⟩)).filter
      (startsWith "case ") = ["case \"Say\":", "case \"Go Up\":"] := by
    rw [linesOf_emitted crossedSchema (Settings.problem?_eq_none_iff.mp hsettings),
      filter_case_unqualified]
    decide
  refine ⟨hsettings, hvalid, hlabels, hlabels ▸ h.1 .boolean, ?_⟩
  exact (h.2 hvalid .vector2).1.trans (by decide)

end Accessor

end ActionLookup
