import ActionLookup.Proofs.Source.Lines

namespace ActionLookup

open Text

namespace Text

def rawLines (ending : LineEnding) (text : String) : List String :=
  (cutAt ending.text.toList text.toList).map String.ofList

theorem rawLines_empty (ending : LineEnding) : rawLines ending "" = [""] := by
  simp [rawLines, cutAt]

theorem rawLines_concat {ending : LineEnding} {lines : List String}
    (h : ∀ line ∈ lines, Avoids ['\n', '\r'] line) :
    rawLines ending (Module.concat (lines.map (Module.closed ending))) = lines ++ [""] := by
  induction lines with
  | nil => exact rawLines_empty ending
  | cons line lines ih =>
      have hrest := ih fun l hl => h l (List.mem_cons_of_mem _ hl)
      rw [List.map_cons, Module.concat_cons, Module.closed, rawLines,
        cutAt_ended ending (h line (List.mem_cons_self ..)), List.map_cons, String.ofList_toList]
      exact congrArg (line :: ·) hrest

def pushed (line : String) : String := if line = "" then "" else "\t" ++ line

theorem tabs_succ (depth : Nat) : tabs (depth + 1) = "\t" ++ tabs depth := by
  apply String.toList_inj.mp
  simp [tabs, List.replicate_succ]

theorem tabs_ne_empty {depth : Nat} (h : depth ≠ 0) : tabs depth ≠ "" := by
  obtain ⟨level, rfl⟩ := Nat.exists_eq_succ_of_ne_zero h
  rw [tabs_succ]
  exact fun e => absurd (String.append_eq_empty_iff.mp e).1 (by decide)

theorem pushed_tabs {depth : Nat} {text : String} (h : depth ≠ 0 ∨ text ≠ "") :
    pushed (tabs depth ++ text) = tabs (depth + 1) ++ text := by
  have hne : tabs depth ++ text ≠ "" := by
    intro hempty
    obtain ⟨htabs, htext⟩ := String.append_eq_empty_iff.mp hempty
    exact h.elim (fun hdepth => tabs_ne_empty hdepth htabs) fun hne => hne htext
  rw [pushed, if_neg hne, tabs_succ, String.append_assoc]

end Text

theorem Line.pushed_tabbed {depth : Nat} (h : depth ≠ 0) (line : Line) :
    pushed (line.tabbed depth) = line.tabbed (depth + 1) := by
  cases line with
  | indented level text =>
      -- There is a tab in front already, so the line is not empty whatever its text is.
      rw [tabbed, tabbed, pushed_tabs (.inl (by omega)), Nat.add_right_comm]
  | bare => rfl

def Indented (line : String) : Prop := line = "" ∨ ∃ rest, line = "\t" ++ rest

theorem indented_tabs {depth : Nat} (h : depth ≠ 0) (text : String) : Indented (tabs depth ++ text) := by
  obtain ⟨level, rfl⟩ := Nat.exists_eq_succ_of_ne_zero h
  exact .inr ⟨tabs level ++ text, by rw [tabs_succ, String.append_assoc]⟩

theorem Line.indented_tabbed {depth : Nat} (h : depth ≠ 0) (line : Line) : Indented (line.tabbed depth) := by
  cases line with
  | indented level text => exact indented_tabs (by omega) text
  | bare => exact .inl rfl

namespace Settings

def inside (s : Settings) (name : String) : Settings := { s with enclosing := some name }

theorem problem?_inside {s : Settings} {name : String} (hs : s.enclosing = none)
    (hname : isNamespace name = true) : (s.inside name).problem? = s.problem? := by
  simp [problem?, inside, hs, hname]

theorem memberDepth_inside {s : Settings} {name : String} (hs : s.enclosing = none) :
    (s.inside name).memberDepth = s.memberDepth + 1 := by
  simp [memberDepth, classDepth, inside, hs]

end Settings

namespace Module

def memberLines (schema : Schema) (settings : Settings) : List String :=
  [tabs settings.memberDepth ++ s!"public static {schema.className} {schema.holder} = new();", ""]
    ++ Tag.all.flatMap fun tag => Generation.bodyLines schema settings tag ++ [""]

def classLines (settings : Settings) (members : List String) : List String :=
  [s!"public static class {settings.className} : object", "\x7b"] ++ members ++ ["\x7d"]

end Module

/-- One module with a namespace around the class of the other. -/
structure Wraps (settings : Settings) (name : String) (plain wrapped : Module) : Prop where
  fileName : wrapped.fileName = plain.fileName
  source : ∃ members, (∀ line ∈ members, Indented line) ∧
    rawLines settings.lineEnding plain.source =
      Module.usings ++ Module.classLines settings members ++ ["", ""] ∧
    rawLines settings.lineEnding wrapped.source =
      Module.usings ++ [s!"namespace {name}", "\x7b"] ++ (Module.classLines settings members).map pushed ++
        ["\x7d", "", ""]
  bodies : ∀ tag, rawLines settings.lineEnding (wrapped.bodies.get tag) =
    (rawLines settings.lineEnding (plain.bodies.get tag)).map pushed
  whole : ∀ line ∈ rawLines settings.lineEnding plain.source, Avoids ['\n', '\r'] line

inductive OnlyWraps (settings : Settings) (name : String) :
    Except GenerationProblem Module → Except GenerationProblem Module → Prop where
  | refused (problem : GenerationProblem) : OnlyWraps settings name (.error problem) (.error problem)
  | generated {plain wrapped : Module} (wraps : Wraps settings name plain wrapped) :
      OnlyWraps settings name (.ok plain) (.ok wrapped)

section Inside

variable {schema : Schema} {settings : Settings} {name : String}

theorem Generation.gate_inside (hs : settings.enclosing = none) (hname : Settings.isNamespace name = true) :
    gate schema (settings.inside name) = gate schema settings := by
  have hsettings : checkSettings schema (settings.inside name) = checkSettings schema settings := by
    rw [checkSettings, checkSettings, Settings.problem?_inside hs hname]
    rfl
  rw [gate, gate, hsettings]
  rfl

theorem Generation.bodyLines_inside (hs : settings.enclosing = none) (tag : Tag) :
    bodyLines schema (settings.inside name) tag = (bodyLines schema settings tag).map pushed := by
  rw [bodyLines, bodyLines, List.map_map, Settings.memberDepth_inside hs]
  refine List.map_congr_left fun line _ => ?_
  exact (Line.pushed_tabbed (Nat.succ_ne_zero _) line).symm

theorem Module.memberLines_inside (hs : settings.enclosing = none) :
    memberLines schema (settings.inside name) = (memberLines schema settings).map pushed := by
  have hbody (tag : Tag) : Generation.bodyLines schema (settings.inside name) tag ++ [""] =
      (Generation.bodyLines schema settings tag ++ [""]).map pushed := by
    rw [Generation.bodyLines_inside hs, List.map_append]
    rfl
  have hfield : pushed (tabs settings.memberDepth ++
        s!"public static {schema.className} {schema.holder} = new();") =
      tabs (settings.memberDepth + 1) ++ s!"public static {schema.className} {schema.holder} = new();" :=
    pushed_tabs (.inl (Nat.succ_ne_zero _))
  rw [memberLines, memberLines, List.map_append, List.map_flatMap, Settings.memberDepth_inside hs,
    funext hbody, List.map_cons, hfield]
  rfl

theorem Module.indented_memberLines : ∀ line ∈ memberLines schema settings, Indented line := by
  have hdepth : settings.memberDepth ≠ 0 := Nat.succ_ne_zero _
  intro line hline
  rcases List.mem_append.mp hline with hline | hline
  · simp only [List.mem_cons, List.not_mem_nil, or_false] at hline
    rcases hline with rfl | rfl
    · exact indented_tabs hdepth _
    · exact .inl rfl
  · obtain ⟨tag, _, hline⟩ := List.mem_flatMap.mp hline
    rcases List.mem_append.mp hline with hline | hline
    · obtain ⟨l, _, rfl⟩ := List.mem_map.mp hline
      exact l.indented_tabbed hdepth
    · exact .inl (List.mem_singleton.mp hline)

theorem Module.sourceLines_plain (hs : settings.enclosing = none) :
    sourceLines schema settings = usings ++ classLines settings (memberLines schema settings) ++ [""] := by
  have hdepth : settings.classDepth = 0 := by simp [Settings.classDepth, hs]
  have htabs : tabs 0 = "" := by decide
  simp [sourceLines, opening, closing, hs, hdepth, htabs, classLines, memberLines, String.append_assoc,
    toString]

theorem Module.map_pushed_classLines (settings : Settings) (members : List String) :
    (classLines settings members).map pushed =
      [tabs 1 ++ s!"public static class {settings.className} : object", tabs 1 ++ "\x7b"] ++
        members.map pushed ++ [tabs 1 ++ "\x7d"] := by
  have hhead : pushed s!"public static class {settings.className} : object" =
      tabs 1 ++ s!"public static class {settings.className} : object" := by
    rw [pushed, if_neg (by simp [toString])]
    rfl
  rw [classLines, List.map_append, List.map_append, List.map_cons, hhead]
  rfl

theorem Module.sourceLines_inside (hs : settings.enclosing = none) :
    sourceLines schema (settings.inside name) = usings ++ [s!"namespace {name}", "\x7b"] ++
      (classLines settings (memberLines schema settings)).map pushed ++ ["\x7d", ""] := by
  have henclosing : (settings.inside name).enclosing = some name := rfl
  have hdepth : (settings.inside name).classDepth = 1 := rfl
  have hname : (settings.inside name).className = settings.className := rfl
  have hmembers : (memberLines schema settings).map pushed = memberLines schema (settings.inside name) :=
    (memberLines_inside hs).symm
  rw [map_pushed_classLines, hmembers]
  simp [sourceLines, opening, closing, henclosing, hdepth, hname, memberLines, String.append_assoc, toString]

theorem Settings.Usable.inside (h : settings.Usable) (hname : Settings.isNamespace name = true) :
    (settings.inside name).Usable :=
  ⟨h.className, h.vectorFunction, h.buttonFunction, fun _ he => Option.some.inj he ▸ hname⟩

theorem Module.whole_sourceLines (h : settings.Usable) :
    ∀ line ∈ sourceLines schema settings, Avoids ['\n', '\r'] line :=
  avoids_sourceLines (by decide) h fun _ _ => Avoids.quote (by decide) _

theorem Generation.rawLines_source (h : settings.Usable) :
    rawLines settings.lineEnding (moduleFor schema settings).source =
      Module.sourceLines schema settings ++ [""] := by
  rw [Module.source_eq_concat]
  exact rawLines_concat (Module.whole_sourceLines h)

theorem Generation.rawLines_bodies (h : settings.Usable) (tag : Tag) :
    rawLines settings.lineEnding ((moduleFor schema settings).bodies.get tag) =
      bodyLines schema settings tag ++ [""] := by
  change rawLines settings.lineEnding ((bodies schema settings).get tag) = _
  rw [get_bodies]
  exact rawLines_concat (Module.avoids_bodyLines (by decide) h (fun _ _ => Avoids.quote (by decide) _) tag)

theorem Generation.wraps_moduleFor (hs : settings.enclosing = none) (hname : Settings.isNamespace name = true)
    (h : settings.Usable) :
    Wraps settings name (moduleFor schema settings) (moduleFor schema (settings.inside name)) where
  fileName := rfl
  source := by
    refine ⟨Module.memberLines schema settings, Module.indented_memberLines, ?_, ?_⟩
    · rw [rawLines_source h, Module.sourceLines_plain hs, List.append_assoc]
      rfl
    · have hinside : rawLines settings.lineEnding (moduleFor schema (settings.inside name)).source =
          Module.sourceLines schema (settings.inside name) ++ [""] :=
        @rawLines_source schema (settings.inside name) (h.inside hname)
      rw [hinside, Module.sourceLines_inside hs, List.append_assoc]
      rfl
  bodies tag := by
    have hinside : rawLines settings.lineEnding ((moduleFor schema (settings.inside name)).bodies.get tag) =
        bodyLines schema (settings.inside name) tag ++ [""] :=
      @rawLines_bodies schema (settings.inside name) (h.inside hname) tag
    rw [hinside, bodyLines_inside hs, rawLines_bodies h, List.map_append]
    rfl
  whole := by
    rw [rawLines_source h, List.forall_mem_append, List.forall_mem_singleton]
    exact ⟨Module.whole_sourceLines h, by simp [Avoids]⟩

end Inside

theorem onlyWraps_generate {schema : Schema} {settings : Settings} {name : String}
    (hs : settings.enclosing = none) (hname : Settings.isNamespace name = true) :
    (Generation.generate schema (settings.inside name)).events =
        (Generation.generate schema settings).events ∧
      OnlyWraps settings name (Generation.generate schema settings).result
        (Generation.generate schema (settings.inside name)).result := by
  rw [Generation.generate_eq_gate, Generation.generate_eq_gate, Generation.gate_inside hs hname]
  cases hgate : (Generation.gate schema settings).result with
  | error problem =>
      simp only [Report.andThen, hgate, true_and]
      exact .refused problem
  | ok =>
      have hadmits := Generation.gate_eq_ok_iff.mp hgate
      have husable : settings.Usable := Settings.problem?_eq_none_iff.mp hadmits.usable
      simp only [Report.andThen, hgate]
      exact ⟨rfl, .generated (Generation.wraps_moduleFor hs hname husable)⟩

def bareSettings : Settings := { blankSettings with enclosing := none }

theorem onlyWraps_generate_blank :
    bareSettings.enclosing = none ∧ Settings.isNamespace "Game.Input" = true ∧
      (Generation.generate blankSchema bareSettings).result =
        .ok (Generation.moduleFor blankSchema bareSettings) ∧
      OnlyWraps bareSettings "Game.Input" (Generation.generate blankSchema bareSettings).result
        (Generation.generate blankSchema blankSettings).result := by
  have hname : Settings.isNamespace "Game.Input" = true := by decide
  have hadmits : Generation.Admits blankSchema bareSettings :=
    ⟨by decide, admits_blank.apart, admits_blank.accepted, admits_blank.unshadowed⟩
  exact ⟨rfl, hname, Generation.generate_eq_ok_iff.mpr ⟨hadmits, rfl⟩, (onlyWraps_generate rfl hname).2⟩

end ActionLookup
