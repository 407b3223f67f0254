import ActionLookup.Proofs.Accessor.Reading
import ActionLookup.Proofs.Source.Generated

/-!
The source as the list of its lines, each closed by the line ending. Only a label can bring in a
character that ends a line, and only one that is not escaped (`oneLineEach_generated_iff`).
-/

namespace ActionLookup

open Text Accessor

theorem Module.mem_toList_concat {parts : List String} {c : Char} :
    c ∈ (concat parts).toList ↔ ∃ part ∈ parts, c ∈ part.toList := by
  induction parts with
  | nil => simp
  | cons part parts ih => simp [ih]

theorem Line.renderAll_eq_concat (ending : LineEnding) (depth : Nat) (lines : List Line) :
    renderAll ending depth lines = Module.concat ((lines.map (tabbed depth)).map (Module.closed ending)) := by
  rw [renderAll, List.map_map]
  congr 2
  funext line
  exact render_eq ending depth line

namespace Generation

def bodyLines (schema : Schema) (settings : Settings) (tag : Tag) : List String :=
  (rendering schema settings tag).map (Line.tabbed settings.memberDepth)

theorem get_bodies (schema : Schema) (settings : Settings) (tag : Tag) :
    (bodies schema settings).get tag =
      Module.concat ((bodyLines schema settings tag).map (Module.closed settings.lineEnding)) := by
  rw [bodies, PerTag.get_ofFunction]
  exact Line.renderAll_eq_concat settings.lineEnding settings.memberDepth _

end Generation

namespace Module

variable {schema : Schema} {settings : Settings}

def sourceLines (schema : Schema) (settings : Settings) : List String :=
  opening schema settings
    ++ (Tag.all.flatMap fun tag => Generation.bodyLines schema settings tag ++ [""])
    ++ closing settings

theorem concat_bodies (schema : Schema) (settings : Settings) (tags : List Tag) :
    concat (tags.map fun tag => closed settings.lineEnding ((Generation.bodies schema settings).get tag)) =
      concat ((tags.flatMap fun tag => Generation.bodyLines schema settings tag ++ [""]).map
        (closed settings.lineEnding)) := by
  induction tags with
  | nil => rfl
  | cons tag tags ih =>
      rw [List.map_cons, concat_cons, ih, Generation.get_bodies, List.flatMap_cons, List.map_append,
        List.map_append, concat_append, concat_append]
      simp [closed]

theorem source_eq_concat (schema : Schema) (settings : Settings) :
    (Generation.moduleFor schema settings).source =
      concat ((sourceLines schema settings).map (closed settings.lineEnding)) := by
  have hbodies : (Generation.bodies schema settings).toList.map (closed settings.lineEnding) =
      Tag.all.map fun tag => closed settings.lineEnding ((Generation.bodies schema settings).get tag) := by
    rw [PerTag.toList_eq_map, List.map_map]
    rfl
  change render schema settings _ = _
  rw [render, hbodies, concat_bodies, sourceLines, List.map_append, List.map_append, concat_append,
    concat_append]

section Avoiding

variable {forbidden : List Char}

theorem avoids_bodyLines (hf : forbidden ⊆ newLines) (hs : settings.Usable)
    (h : ∀ name ∈ schema.labelled, Avoids forbidden (quote name)) (tag : Tag) :
    ∀ line ∈ Generation.bodyLines schema settings tag, Avoids forbidden line := by
  intro line hline
  obtain ⟨l, hl, rfl⟩ := List.mem_map.mp hline
  have hcontent : Avoids forbidden l.content :=
    avoids_rendering (List.subset_cons_of_subset _ hf) hs h tag l hl
  cases l with
  | indented level text =>
      exact Avoids.append_iff.mpr ⟨Avoids.tabs (fun hmem => absurd (hf hmem) (by decide)) _, hcontent⟩
  | bare => exact hcontent

theorem avoids_closing (hf : forbidden ⊆ newLines) (settings : Settings) :
    ∀ line ∈ closing settings, Avoids forbidden line := by
  have hempty : Avoids forbidden "" := by simp [Avoids]
  have hbrace : Avoids forbidden "\x7d" := Avoids.mono hf (by simp [Avoids, newLines])
  have hindented : Avoids forbidden (tabs settings.classDepth ++ "\x7d") :=
    Avoids.append_iff.mpr ⟨Avoids.tabs (fun hmem => absurd (hf hmem) (by decide)) _, hbrace⟩
  simp only [closing, List.forall_mem_append, List.forall_mem_singleton]
  refine ⟨⟨hindented, ?_⟩, hempty⟩
  split
  · exact List.forall_mem_singleton.mpr hbrace
  · exact List.forall_mem_nil _

theorem avoids_sourceLines (hf : forbidden ⊆ newLines) (hs : settings.Usable)
    (h : ∀ name ∈ schema.labelled, Avoids forbidden (quote name)) :
    ∀ line ∈ sourceLines schema settings, Avoids forbidden line := by
  have hseparators : forbidden ⊆ separators := List.subset_cons_of_subset _ hf
  have hclass : Avoids forbidden schema.className :=
    Avoids.mono hseparators (Avoids.stripped (by decide) schema.name)
  have hopening := avoids_opening (List.subset_cons_of_subset _ hf) hs hclass
    (Avoids.mono hseparators (avoids_holder schema))
  have hbodies : ∀ line ∈ Tag.all.flatMap (fun tag => Generation.bodyLines schema settings tag ++ [""]),
      Avoids forbidden line := by
    intro line hline
    obtain ⟨tag, _, hline⟩ := List.mem_flatMap.mp hline
    rcases List.mem_append.mp hline with hline | hline
    · exact avoids_bodyLines hf hs h tag line hline
    · rw [List.mem_singleton.mp hline]
      simp [Avoids]
  simp only [sourceLines, List.forall_mem_append]
  exact ⟨⟨hopening, hbodies⟩, avoids_closing hf settings⟩

end Avoiding

theorem mem_source_of_mem_rendering (tag : Tag) (level : Nat) {text : String}
    (h : Line.indented level text ∈ rendering schema settings tag) {c : Char} (hc : c ∈ text.toList) :
    c ∈ (Generation.moduleFor schema settings).source.toList := by
  rw [source_eq_concat, mem_toList_concat]
  refine ⟨_, List.mem_map_of_mem (List.mem_append_left _ (List.mem_append_right _ (List.mem_flatMap.mpr
    ⟨tag, tag.mem_all, List.mem_append_left _ (List.mem_map_of_mem h)⟩))), ?_⟩
  simp [closed, Line.tabbed, hc]

theorem mem_source_of_mem_label {name : String} (h : name ∈ schema.labelled) {c : Char}
    (hc : c ∈ (label name).toList) : c ∈ (Generation.moduleFor schema settings).source.toList := by
  obtain ⟨g, hg, hname⟩ := List.mem_flatMap.mp h
  rcases List.mem_cons.mp hname with rfl | hname
  · refine mem_source_of_mem_rendering ⟨.vector2, true⟩ 2 ?_ hc
    have hsection : Line.indented 2 (label g.name) ∈ sectionLines schema.holder .vector2 g := by
      simp [sectionLines, label]
    simp only [rendering, choiceLines, List.mem_append, List.mem_flatMap]
    exact .inl (.inl (.inr ⟨g, hg, hsection⟩))
  · obtain ⟨b, hb, rfl⟩ := List.mem_map.mp hname
    refine mem_source_of_mem_rendering ⟨b.valueType, true⟩ 4 ?_ hc
    have hsection : Line.indented 4 (label b.name) ∈ sectionLines schema.holder b.valueType g := by
      have harm : Line.indented 4 (label b.name) ∈ armLines 4 schema.holder (g, b) := by
        simp [armLines, label]
      have hof : b ∈ g.ofType b.valueType := by simp [Group.ofType, hb]
      simp only [sectionLines, List.mem_append, List.mem_flatMap]
      exact .inl (.inl (.inr ⟨b, hof, harm⟩))
    simp only [rendering, choiceLines, List.mem_append, List.mem_flatMap]
    exact .inl (.inl (.inr ⟨g, hg, hsection⟩))

end Module

/-- Characters that end a line but stand in a quoted name as they are. -/
def unescaped : List Char := ['\u0085', '\u2028', '\u2029']

theorem mem_newLines_iff {c : Char} : c ∈ newLines ↔ c ∈ ['\n', '\r'] ∨ c ∈ unescaped := by
  simp [newLines, unescaped, or_assoc]

theorem mem_quote_of_mem {name : String} {c : Char} (hc : c ∈ name.toList) (hu : c ∈ unescaped) :
    c ∈ (quote name).toList := by
  have hall : unescaped.all (fun c => escape c == [c]) = true := by decide
  have hescape : escape c = [c] := by simpa using List.all_eq_true.mp hall c hu
  have hmem : c ∈ name.toList.flatMap escape :=
    List.mem_flatMap.mpr ⟨c, hc, hescape ▸ List.mem_singleton_self c⟩
  simp [quote, quoteChars, hmem]

theorem mem_of_mem_quote {name : String} {c : Char} (hc : c ∈ (quote name).toList) (hu : c ∈ unescaped) :
    c ∈ name.toList := by
  have hother : unescaped.all (fun c => decide (c ∉ ['\\', '"', 'n', 'r', 't'])) = true := by decide
  have hnot : c ∉ ['\\', '"', 'n', 'r', 't'] := of_decide_eq_true (List.all_eq_true.mp hother c hu)
  simp only [quote, quoteChars, String.toList_ofList, List.cons_append, List.mem_cons, List.mem_append,
    List.mem_flatMap, List.not_mem_nil, or_false] at hc
  rcases hc with rfl | ⟨d, hd, hc⟩ | rfl
  · exact absurd hu (by decide)
  · rcases escape_eq d with ⟨letter, hletter, hescape⟩ | ⟨_, hescape⟩
    · rw [hescape, List.mem_cons, List.mem_singleton] at hc
      rcases hc with rfl | rfl
      · exact absurd hu (by decide)
      · exact absurd hletter hnot
    · rw [hescape, List.mem_singleton] at hc
      exact hc ▸ hd
  · exact absurd hu (by decide)

theorem avoids_newLines_quote {name : String} (h : Avoids unescaped name) : Avoids newLines (quote name) := by
  intro c hc hn
  rcases mem_newLines_iff.mp hn with hbreak | hu
  · have hbreaks : Avoids ['\n', '\r'] (quote name) := Avoids.quote (by decide) name
    exact hbreaks c hc hbreak
  · exact h c (mem_of_mem_quote hc hu) hu

/-- Every line is closed by the line ending, and nothing else in the text ends a line. -/
def OneLineEach (ending : LineEnding) (text : String) : Prop :=
  ∃ lines : List String, text = Module.concat (lines.map (Module.closed ending)) ∧
    ∀ line ∈ lines, Avoids newLines line

theorem OneLineEach.avoids_unescaped {ending : LineEnding} {text : String} (h : OneLineEach ending text) :
    Avoids unescaped text := by
  obtain ⟨lines, rfl, hlines⟩ := h
  intro c hc hu
  obtain ⟨part, hpart, hc⟩ := Module.mem_toList_concat.mp hc
  obtain ⟨line, hline, rfl⟩ := List.mem_map.mp hpart
  rw [Module.closed, String.toList_append, List.mem_append] at hc
  rcases hc with hc | hc
  · exact hlines line hline c hc (mem_newLines_iff.mpr (.inr hu))
  · have hending : Avoids unescaped ending.text := by
      cases ending <;> simp [Avoids, LineEnding.text, unescaped]
    exact hending c hc hu

theorem oneLineEach_generated_iff {schema : Schema} {settings : Settings} {m : Module}
    (h : (Generation.generate schema settings).result = .ok m) :
    OneLineEach settings.lineEnding m.source ↔ ∀ name ∈ schema.labelled, Avoids unescaped name := by
  obtain ⟨hadmits, rfl⟩ := Generation.generate_eq_ok_iff.mp h
  have hs := Settings.problem?_eq_none_iff.mp hadmits.usable
  constructor
  · intro hone name hname c hc hu
    have hlabel : c ∈ (label name).toList := by
      simp [label_eq, mem_quote_of_mem hc hu]
    exact hone.avoids_unescaped c (Module.mem_source_of_mem_label hname hlabel) hu
  · intro hnames
    refine ⟨Module.sourceLines schema settings, Module.source_eq_concat schema settings, ?_⟩
    exact Module.avoids_sourceLines (List.Subset.refl _) hs
      fun name hname => avoids_newLines_quote (hnames name hname)

theorem oneLineEach_generated_blank :
    (Generation.generate blankSchema blankSettings).result =
        .ok (Generation.moduleFor blankSchema blankSettings) ∧
      OneLineEach .crlf (Generation.moduleFor blankSchema blankSettings).source := by
  have hok := Generation.generate_eq_ok_iff.mpr ⟨admits_blank, rfl⟩
  refine ⟨hok, (oneLineEach_generated_iff hok).mpr ?_⟩
  simp [Schema.labelled, blankSchema, Avoids, unescaped]

def separatedSchema : Schema := ⟨"Controls", [⟨"On\u2028Foot", [⟨"Jump", .boolean⟩]⟩]⟩

theorem not_oneLineEach_separated :
    (Generation.generate separatedSchema Settings.default).result =
        .ok (Generation.moduleFor separatedSchema Settings.default) ∧
      Settings.default.validates = true ∧
      ¬OneLineEach .lf (Generation.moduleFor separatedSchema Settings.default).source := by
  refine ⟨Generation.generate_eq_ok_iff.mpr ⟨⟨by decide, by decide, fun _ => ?_, nofun⟩, rfl⟩, rfl, ?_⟩
  · decide
  · intro hone
    have hmem : '\u2028' ∈ (label "On\u2028Foot").toList := by decide
    have hname : "On\u2028Foot" ∈ separatedSchema.labelled := by simp [Schema.labelled, separatedSchema]
    exact hone.avoids_unescaped _ (Module.mem_source_of_mem_label hname hmem) (by decide)

end ActionLookup
