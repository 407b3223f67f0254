import Mathlib.Data.List.Basic
import ActionLookup.Proofs.Accessor.Labels
import ActionLookup.Proofs.Source.Generated

/-!
The generated class and what a schema dispatches on determine each other: the labels of its switches
can be read off the lines of the source, and nothing else of the schema is written
(`generated_eq_iff`).
-/

namespace ActionLookup

open Text Accessor

/-- One class name, and the same names in each group, type by type. -/
structure Schema.SameDispatch (s s' : Schema) : Prop where
  className : s.className = s'.className
  groups : s.groups.map Group.name = s'.groups.map Group.name
  bindings : ∀ t, s.groups.map (fun g => (g.ofType t).map Binding.name) =
    s'.groups.map fun g => (g.ofType t).map Binding.name

namespace Schema

variable {s s' : Schema}

def namesOf (s : Schema) (t : ValueType) : List (String × List String) :=
  s.groups.map fun g => (g.name, (g.ofType t).map Binding.name)

theorem SameDispatch.holder (h : s.SameDispatch s') : s.holder = s'.holder :=
  congrArg Name.lowercase h.className

theorem SameDispatch.namesOf (h : s.SameDispatch s') (t : ValueType) : s.namesOf t = s'.namesOf t := by
  have hzip := congrArg₂ List.zip h.groups (h.bindings t)
  rwa [List.zip_map', List.zip_map'] at hzip

end Schema

def namesAt (p : Group × Binding) : String × String := (p.1.name, p.2.name)

theorem map_firstOfName_congr {earlier : List String} {ps qs : List (Group × Binding)}
    (h : ps.map namesAt = qs.map namesAt) :
    (firstOfName earlier ps).map namesAt = (firstOfName earlier qs).map namesAt := by
  induction ps generalizing earlier qs with
  | nil =>
      rw [List.map_eq_nil_iff.mp h.symm]
  | cons p ps ih =>
      obtain ⟨q, rest, rfl, hq, hrest⟩ := List.map_eq_cons_iff.mp h.symm
      have hname : q.2.name = p.2.name := congrArg Prod.snd hq
      simp only [firstOfName, hname]
      split
      · exact ih hrest.symm
      · rw [List.map_cons, List.map_cons, hq, ih hrest.symm]

theorem Schema.map_placedOf (s : Schema) (t : ValueType) :
    (s.placedOf t).map namesAt = (s.namesOf t).flatMap fun p => p.2.map fun name => (p.1, name) := by
  rw [placedOf, placed, List.filter_flatMap, List.map_flatMap, namesOf, List.flatMap_map]
  refine List.flatMap_congr fun g _ => ?_
  rw [List.filter_map, List.map_map, List.map_map]
  rfl

theorem Schema.map_reachable_congr {s s' : Schema} {t : ValueType} (h : s.namesOf t = s'.namesOf t) :
    (s.reachable t).map namesAt = (s'.reachable t).map namesAt :=
  map_firstOfName_congr (by rw [map_placedOf, map_placedOf, h])

namespace Accessor

def namedArm (level : Nat) (holder : String) (t : ValueType) (names : String × String) : List Line :=
  [.indented level (label names.2),
    .indented (level + 1) (returnLive t s!"{holder}.{Name.strip names.1}.{Name.strip names.2}")]

theorem armLines_eq {level : Nat} {holder : String} {t : ValueType} {p : Group × Binding}
    (h : p.2.valueType = t) : armLines level holder p = namedArm level holder t (namesAt p) := by
  subst h
  rfl

def namedSection (holder : String) (t : ValueType) (p : String × List String) : List Line :=
  [.indented 2 (label p.1), .indented 3 "switch(actionName)", .indented 3 openBrace]
    ++ (p.2.map fun name => (p.1, name)).flatMap (namedArm 4 holder t)
    ++ defaultLines 4
    ++ [.indented 3 closeBrace, .indented 3 "break;"]

theorem sectionLines_eq (holder : String) (t : ValueType) (g : Group) :
    sectionLines holder t g = namedSection holder t (g.name, (g.ofType t).map Binding.name) := by
  have harms : ((g.ofType t).flatMap fun b => armLines 4 holder (g, b)) =
      (((g.ofType t).map Binding.name).map fun name => (g.name, name)).flatMap (namedArm 4 holder t) := by
    rw [List.map_map, List.flatMap_map]
    refine List.flatMap_congr fun b hb => armLines_eq ?_
    simpa using (List.mem_filter.mp hb).2
  simp only [sectionLines, namedSection, harms]
  rfl

theorem choiceLines_congr {s s' : Schema} (hholder : s.holder = s'.holder)
    (hnames : ∀ t, s.namesOf t = s'.namesOf t) (tag : Tag) : choiceLines s tag = choiceLines s' tag := by
  have hqualified (s : Schema) (t : ValueType) :
      choiceLines s ⟨t, true⟩ = (s.namesOf t).flatMap (namedSection s.holder t) := by
    rw [choiceLines, Schema.namesOf, List.flatMap_map]
    exact List.flatMap_congr fun g _ => sectionLines_eq s.holder t g
  have hunqualified (s : Schema) (t : ValueType) :
      choiceLines s ⟨t, false⟩ = ((s.reachable t).map namesAt).flatMap (namedArm 2 s.holder t) := by
    rw [choiceLines, List.flatMap_map]
    refine List.flatMap_congr fun p hp => armLines_eq ?_
    simpa using (List.mem_filter.mp (mem_of_mem_firstOfName hp)).2
  obtain ⟨t, q⟩ := tag
  cases q with
  | false => rw [hunqualified, hunqualified, hholder, Schema.map_reachable_congr (hnames t)]
  | true => rw [hqualified, hqualified, hholder, hnames t]

end Accessor

theorem Generation.moduleFor_congr {s s' : Schema} (h : s.SameDispatch s') (settings : Settings) :
    moduleFor s settings = moduleFor s' settings := by
  have hrendering (tag : Tag) : rendering s settings tag = rendering s' settings tag := by
    rw [rendering, rendering, choiceLines_congr h.holder h.namesOf tag, h.holder]
  have hbodies : bodies s settings = bodies s' settings := by
    rw [bodies, bodies, funext hrendering]
  have hopening : Module.opening s settings = Module.opening s' settings := by
    rw [Module.opening, Module.opening, h.className, h.holder]
  rw [moduleFor, moduleFor, hbodies, Module.render, Module.render, hopening]

namespace Module

variable {schema : Schema} {settings : Settings}

theorem linesOf_concat {ending : LineEnding} {lines : List String}
    (h : ∀ line ∈ lines, Avoids ['\n', '\r'] line) (rest : String) :
    linesOf ending (concat (lines.map (closed ending)) ++ rest) =
      lines.map untabbed ++ linesOf ending rest := by
  induction lines with
  | nil => simp
  | cons line lines ih =>
      rw [List.map_cons, concat_cons, closed, String.append_assoc,
        linesOf_ended ending (h line (List.mem_cons_self ..)), ih fun l hl => h l (List.mem_cons_of_mem _ hl)]
      rfl

def frontTexts (settings : Settings) : List String :=
  usings
    ++ (match settings.enclosing with
        | none => []
        | some name => [s!"namespace {name}", "\x7b"])
    ++ [s!"public static class {settings.className} : object", "\x7b"]

def fieldText (schema : Schema) : String := s!"public static {schema.className} {schema.holder} = new();"

theorem fieldText_eq (schema : Schema) : fieldText schema =
    "public static " ++ (schema.className ++ (" " ++ (schema.holder ++ " = new();"))) := by
  delta fieldText
  simp only [toString, String.append_assoc]

theorem untabbed_eq {text : String} (h : Avoids ['\t'] text) : untabbed text = text := by
  have htabs := untabbed_tabs h 0
  rwa [show tabs 0 = "" from rfl, String.empty_append] at htabs

theorem map_untabbed_usings : usings.map untabbed = usings := by
  have hall : ∀ line ∈ usings, Avoids ['\t'] line := avoids_usings (by decide)
  exact (List.map_congr_left fun line hline => untabbed_eq (hall line hline)).trans usings.map_id

theorem untabbed_classLine (hs : settings.Usable) :
    untabbed s!"{tabs settings.classDepth}public static class {settings.className} : object" =
      s!"public static class {settings.className} : object" := by
  have hname : Avoids ['\t'] settings.className :=
    Avoids.mono (by decide) (Avoids.of_isIdentifier hs.className)
  have htext : Avoids ['\t'] s!"public static class {settings.className} : object" := by
    simp only [toString, Avoids.append_iff, hname]
    simp [Avoids]
  have hline := untabbed_tabs htext settings.classDepth
  simpa [toString, String.append_assoc] using hline

theorem untabbed_fieldLine (schema : Schema) (settings : Settings) :
    untabbed s!"{tabs settings.memberDepth}public static {schema.className} {schema.holder} = new();" =
      fieldText schema := by
  have hclass : Avoids ['\t'] schema.className := Avoids.mono (by decide) (Avoids.strip schema.name)
  have hholder : Avoids ['\t'] schema.holder := Avoids.mono (by decide) (avoids_blanks_holder schema)
  have htext : Avoids ['\t'] (fieldText schema) := by
    simp only [fieldText_eq, Avoids.append_iff, hclass, hholder]
    simp [Avoids]
  have hline := untabbed_tabs htext settings.memberDepth
  simpa [fieldText_eq, toString, String.append_assoc] using hline

theorem map_untabbed_opening (schema : Schema) (hs : settings.Usable) :
    (opening schema settings).map untabbed = frontTexts settings ++ [fieldText schema, ""] := by
  have hbrace : Avoids ['\t'] "\x7b" := by simp [Avoids]
  have hempty : untabbed "" = "" := untabbed_eq (by simp [Avoids])
  have hindented := untabbed_tabs hbrace settings.classDepth
  have hends : [s!"{tabs settings.classDepth}public static class {settings.className} : object",
      tabs settings.classDepth ++ "\x7b",
      s!"{tabs settings.memberDepth}public static {schema.className} {schema.holder} = new();",
      ""].map untabbed =
        [s!"public static class {settings.className} : object", "\x7b", fieldText schema, ""] := by
    rw [List.map_cons, List.map_cons, List.map_cons, List.map_cons, untabbed_classLine hs, hindented,
      untabbed_fieldLine, hempty, List.map_nil]
  cases he : settings.enclosing with
  | none =>
      simp only [opening, frontTexts, he, List.map_append, map_untabbed_usings, hends]
      simp
  | some name =>
      have hname : untabbed s!"namespace {name}" = s!"namespace {name}" := by
        refine untabbed_eq (Avoids.append_iff.mpr ⟨by simp [toString, Avoids], ?_⟩)
        exact Avoids.mono (by decide) (Avoids.of_isNamespace (hs.enclosing name he))
      simp only [opening, frontTexts, he, List.map_append, map_untabbed_usings, hends, List.map_cons, hname,
        untabbed_eq hbrace]
      simp

theorem linesOf_bodies (schema : Schema) (hs : settings.Usable) (tags : List Tag) (rest : String) :
    linesOf settings.lineEnding (concat (tags.map fun tag =>
        closed settings.lineEnding ((Generation.bodies schema settings).get tag)) ++ rest) =
      (tags.flatMap fun tag => (rendering schema settings tag).map Line.content ++ [""]) ++
        linesOf settings.lineEnding rest := by
  induction tags with
  | nil => simp
  | cons tag tags ih =>
      have hlines := avoids_breaks_rendering schema hs tag
      rw [List.map_cons, concat_cons, closed, Generation.bodies, PerTag.get_ofFunction, ← Generation.bodies,
        String.append_assoc, String.append_assoc, Line.linesOf_renderAll_append hlines,
        ← String.empty_append (s := settings.lineEnding.text), linesOf_ended _ (by simp [Avoids]), ih,
        List.flatMap_cons, List.append_assoc, List.append_assoc]
      rfl

theorem linesOf_source (schema : Schema) (hs : settings.Usable) :
    linesOf settings.lineEnding (Generation.moduleFor schema settings).source =
      frontTexts settings ++ fieldText schema :: "" ::
        ((Tag.all.flatMap fun tag => (rendering schema settings tag).map Line.content ++ [""]) ++
          linesOf settings.lineEnding (concat ((closing settings).map (closed settings.lineEnding)))) := by
  have hclass : Avoids ['\n', '\r'] schema.className := Avoids.mono (by decide) (Avoids.strip schema.name)
  have hholder : Avoids ['\n', '\r'] schema.holder := Avoids.mono (by decide) (avoids_blanks_holder schema)
  have hopening := avoids_opening (by decide) hs hclass hholder
  have hbodies : (Generation.bodies schema settings).toList.map (closed settings.lineEnding) =
      Tag.all.map fun tag => closed settings.lineEnding ((Generation.bodies schema settings).get tag) := by
    rw [PerTag.toList_eq_map, List.map_map]
    rfl
  change linesOf _ (_ ++ _ ++ _) = _
  rw [hbodies, String.append_assoc, linesOf_concat hopening, linesOf_bodies schema hs,
    map_untabbed_opening schema hs, List.append_assoc]
  rfl

theorem switches_append {lines : List String} (h : ∀ line ∈ lines, chosen? line = none)
    (rest : List String) : switches (lines ++ rest) = switches rest := by
  induction lines with
  | nil => rfl
  | cons line lines ih =>
      rw [List.cons_append, switches_other (h line (List.mem_cons_self ..))]
      exact ih fun l hl => h l (List.mem_cons_of_mem _ hl)

theorem chosen?_frontTexts (settings : Settings) : ∀ line ∈ frontTexts settings, chosen? line = none := by
  have husings : ∀ line ∈ usings, chosen? line = none := by
    simp only [usings, List.forall_mem_cons]
    simp [chosen?, startsWith]
  have hbrace : chosen? "\x7b" = none := by simp [chosen?, startsWith]
  have hclass : chosen? s!"public static class {settings.className} : object" = none :=
    chosen?_of_initial (by simp [initial, toString])
  cases he : settings.enclosing with
  | none =>
      simp only [frontTexts, he, List.forall_mem_append, List.forall_mem_cons]
      exact ⟨⟨husings, List.forall_mem_nil _⟩, hclass, hbrace, List.forall_mem_nil _⟩
  | some name =>
      have hname : chosen? s!"namespace {name}" = none := chosen?_of_initial (by simp [initial, toString])
      simp only [frontTexts, he, List.forall_mem_append, List.forall_mem_cons]
      exact ⟨⟨husings, hname, hbrace, List.forall_mem_nil _⟩, hclass, hbrace, List.forall_mem_nil _⟩

theorem switches_bodies (schema : Schema) (settings : Settings) (tags : List Tag) (rest : List String) :
    switches ((tags.flatMap fun tag => (rendering schema settings tag).map Line.content ++ [""]) ++ rest) =
      tags.flatMap (labelTable schema) ++ switches rest := by
  induction tags with
  | nil => rfl
  | cons tag tags ih =>
      rw [List.flatMap_cons, List.append_assoc, List.append_assoc, List.singleton_append,
        switches_rendering, ih, List.flatMap_cons, List.append_assoc]

theorem switches_source (schema : Schema) (hs : settings.Usable) :
    switches (linesOf settings.lineEnding (Generation.moduleFor schema settings).source) =
      Tag.all.flatMap (labelTable schema) ++
        switches (linesOf settings.lineEnding (concat ((closing settings).map (closed settings.lineEnding)))) := by
  have hfield : chosen? (fieldText schema) = none :=
    chosen?_of_initial (by simp [fieldText_eq, initial])
  have hempty : chosen? "" = none := chosen?_of_initial (by simp [initial])
  rw [linesOf_source schema hs, switches_append (chosen?_frontTexts settings), switches_other hfield,
    switches_other hempty, switches_bodies]

theorem className_of_fieldText {s s' : Schema} (h : fieldText s = fieldText s') :
    s.className = s'.className := by
  have hname (s : Schema) : ' ' ∉ s.className.toList := fun hmem =>
    Avoids.strip s.name ' ' hmem (by decide)
  have hcut (s : Schema) : (cutAt [' '] (s.className ++ " " ++ (s.holder ++ " = new();")).toList).head? =
      some s.className.toList := by
    rw [String.toList_append, String.toList_append, show " ".toList = [' '] by simp, cutAt_append (hname s)]
    rfl
  have hrest : s.className ++ " " ++ (s.holder ++ " = new();") =
      s'.className ++ " " ++ (s'.holder ++ " = new();") := by
    have hchars := congrArg String.toList h
    simpa [fieldText_eq, ← String.toList_inj] using hchars
  have hhead := hcut s
  rw [hrest, hcut s'] at hhead
  exact (String.toList_inj.mp (Option.some.inj hhead)).symm

end Module

namespace Accessor

theorem map_label_injective : Function.Injective (List.map label) :=
  List.map_injective_iff.mpr fun _ _ => label_injective

def groupLabels (s : Schema) : List String := (s.groups.map Group.name).map label

def bindingLabels (s : Schema) (t : ValueType) : List (List String) :=
  (s.groups.map fun g => (g.ofType t).map Binding.name).map (List.map label)

theorem labelTable_qualified (s : Schema) (t : ValueType) :
    labelTable s ⟨t, true⟩ = groupLabels s :: bindingLabels s t := by
  simp [labelTable, groupLabels, bindingLabels, Function.comp_def]

theorem flatMap_labelTable (s : Schema) :
    ∃ vectors booleans, Tag.all.flatMap (labelTable s) =
      groupLabels s :: (bindingLabels s .vector2 ++
        vectors :: groupLabels s :: (bindingLabels s .boolean ++ [booleans])) := by
  refine ⟨(s.reachable .vector2).map fun p => label p.2.name,
    (s.reachable .boolean).map fun p => label p.2.name, ?_⟩
  simp only [Tag.all, ValueType.all, List.flatMap_cons, List.flatMap_nil, List.append_nil,
    labelTable_qualified, List.cons_append, List.nil_append]
  simp [labelTable]

theorem sameDispatch_of_labelTable {s s' : Schema} (hclass : s.className = s'.className)
    (h : Tag.all.flatMap (labelTable s) = Tag.all.flatMap (labelTable s')) : s.SameDispatch s' := by
  obtain ⟨vectors, booleans, hs⟩ := flatMap_labelTable s
  obtain ⟨vectors', booleans', hs'⟩ := flatMap_labelTable s'
  rw [hs, hs'] at h
  obtain ⟨houter, h⟩ := List.cons.inj h
  have hgroups : s.groups.map Group.name = s'.groups.map Group.name := map_label_injective houter
  -- There are as many inner switches as groups, so the table can be cut where they end.
  have hlength (t : ValueType) : (bindingLabels s t).length = (bindingLabels s' t).length := by
    simpa [bindingLabels] using congrArg List.length hgroups
  obtain ⟨hvectors, h⟩ := List.append_inj h (hlength .vector2)
  obtain ⟨hbooleans, _⟩ := List.append_inj (List.cons.inj (List.cons.inj h).2).2 (hlength .boolean)
  have hinjective : Function.Injective (List.map (List.map label)) :=
    List.map_injective_iff.mpr map_label_injective
  refine ⟨hclass, hgroups, fun t => ?_⟩
  cases t with
  | vector2 => exact hinjective hvectors
  | boolean => exact hinjective hbooleans

end Accessor

theorem sameDispatch_of_source {s s' : Schema} {settings : Settings} (hs : settings.Usable)
    (h : (Generation.moduleFor s settings).source = (Generation.moduleFor s' settings).source) :
    s.SameDispatch s' := by
  have hlines := congrArg (linesOf settings.lineEnding) h
  have hclass : s.className = s'.className := by
    rw [Module.linesOf_source s hs, Module.linesOf_source s' hs, List.append_cancel_left_eq] at hlines
    exact Module.className_of_fieldText (List.cons.inj hlines).1
  have hswitches := congrArg switches hlines
  rw [Module.switches_source s hs, Module.switches_source s' hs, List.append_cancel_right_eq] at hswitches
  exact sameDispatch_of_labelTable hclass hswitches

theorem generated_eq_iff {s s' : Schema} {settings : Settings} {m m' : Module}
    (h : (Generation.generate s settings).result = .ok m)
    (h' : (Generation.generate s' settings).result = .ok m') :
    (m = m' ↔ s.SameDispatch s') ∧ (m.source = m'.source ↔ s.SameDispatch s') := by
  obtain ⟨hadmits, rfl⟩ := Generation.generate_eq_ok_iff.mp h
  obtain ⟨_, rfl⟩ := Generation.generate_eq_ok_iff.mp h'
  have husable := Settings.problem?_eq_none_iff.mp hadmits.usable
  refine ⟨⟨fun heq => ?_, fun hsame => ?_⟩, ⟨fun heq => ?_, fun hsame => ?_⟩⟩
  · exact sameDispatch_of_source husable (congrArg Module.source heq)
  · exact Generation.moduleFor_congr hsame settings
  · exact sameDispatch_of_source husable heq
  · exact congrArg Module.source (Generation.moduleFor_congr hsame settings)

def mixedSchema : Schema :=
  ⟨"Player Controls", [⟨"On Foot", [⟨"Go", .vector2⟩, ⟨"Jump", .boolean⟩, ⟨"Look", .vector2⟩]⟩,
    ⟨"In Air", [⟨"Go", .vector2⟩, ⟨"Jump", .boolean⟩]⟩]⟩

def sortedSchema : Schema :=
  ⟨"PlayerControls", [⟨"On Foot", [⟨"Jump", .boolean⟩, ⟨"Go", .vector2⟩, ⟨"Look", .vector2⟩]⟩,
    ⟨"In Air", [⟨"Jump", .boolean⟩, ⟨"Go", .vector2⟩]⟩]⟩

def tightSchema : Schema :=
  ⟨"PlayerControls", [⟨"OnFoot", [⟨"Jump", .boolean⟩, ⟨"Go", .vector2⟩, ⟨"Look", .vector2⟩]⟩,
    ⟨"In Air", [⟨"Jump", .boolean⟩, ⟨"Go", .vector2⟩]⟩]⟩

theorem generate_mixed : (Generation.generate mixedSchema Settings.default).result =
    .ok (Generation.moduleFor mixedSchema Settings.default) :=
  Generation.generate_eq_ok_iff.mpr
    ⟨⟨by decide, by decide, fun _ => by decide, nofun⟩, rfl⟩

theorem generate_sorted : (Generation.generate sortedSchema Settings.default).result =
    .ok (Generation.moduleFor sortedSchema Settings.default) :=
  Generation.generate_eq_ok_iff.mpr
    ⟨⟨by decide, by decide, fun _ => by decide, nofun⟩, rfl⟩

theorem generate_tight : (Generation.generate tightSchema Settings.default).result =
    .ok (Generation.moduleFor tightSchema Settings.default) :=
  Generation.generate_eq_ok_iff.mpr
    ⟨⟨by decide, by decide, fun _ => by decide, nofun⟩, rfl⟩

theorem sameDispatch_mixed : mixedSchema.SameDispatch sortedSchema where
  className := by decide
  groups := rfl
  bindings := fun t => by cases t <;> rfl

theorem generated_eq_iff_mixed :
    (Generation.generate mixedSchema Settings.default).result =
        .ok (Generation.moduleFor mixedSchema Settings.default) ∧
      (Generation.generate sortedSchema Settings.default).result =
        .ok (Generation.moduleFor sortedSchema Settings.default) ∧
      mixedSchema ≠ sortedSchema ∧
      Generation.moduleFor mixedSchema Settings.default =
        Generation.moduleFor sortedSchema Settings.default ∧
      (Generation.moduleFor mixedSchema Settings.default).source ≠
        (Generation.moduleFor tightSchema Settings.default).source := by
  refine ⟨generate_mixed, generate_sorted, by decide,
    (generated_eq_iff generate_mixed generate_sorted).1.mpr sameDispatch_mixed, fun heq => ?_⟩
  have hsame := (generated_eq_iff generate_mixed generate_tight).2.mp heq
  exact absurd hsame.groups (by decide)

end ActionLookup
