import ActionLookup.Proofs.Generation.Success
import ActionLookup.Proofs.Schema.Acceptance
import ActionLookup.Proofs.Source.Accessors

/-!
No name breaks out of its literal: the whole source of an accepted schema is closed, and the
literals of each body are the names that its accessor tells apart (`scan_generated`).
-/

namespace ActionLookup

open Text Accessor

theorem Avoids.segmented {forbidden : List Char} (h : forbidden.all (fun c => !Name.continues c) = true)
    (hdot : '.' ∉ forbidden) {name : String} (hn : Settings.isNamespace name = true) :
    Avoids forbidden name := by
  intro c hc hf
  rcases mem_pieces '.' hc with rfl | ⟨piece, hpiece, hmem⟩
  · exact hdot hf
  · have hidentifier : Name.isIdentifier (String.ofList piece) = true := by
      rw [Name.isIdentifier, String.toList_ofList]
      exact List.all_eq_true.mp hn piece hpiece
    exact Avoids.identifier h hidentifier c (by rw [String.toList_ofList]; exact hmem) hf

theorem Avoids.of_isNamespace {name : String} (hn : Settings.isNamespace name = true) :
    Avoids foreign name :=
  segmented (by decide) (by decide) hn

namespace Module

variable {schema : Schema} {settings : Settings}

def classText (schema : Schema) (settings : Settings) (inside : String) : String :=
  let ending := settings.lineEnding.text
  let indent := tabs settings.classDepth
  indent ++ ("public static class " ++ settings.className ++ " : object") ++ ending ++ indent
    ++ ("\x7b" ++ (ending ++ tabs settings.memberDepth
      ++ ("public static " ++ schema.className ++ " " ++ schema.holder ++ " = new();") ++ ending ++ ending
      ++ inside ++ indent) ++ "\x7d")
    ++ ending

theorem render_eq_of_none (h : settings.enclosing = none) (bodies : PerTag String) :
    render schema settings bodies =
      concat (usings.map (closed settings.lineEnding))
        ++ classText schema settings (concat (bodies.toList.map (closed settings.lineEnding)))
        ++ settings.lineEnding.text := by
  simp [render, opening, closing, h, concat_append, closed, classText, toString, String.append_assoc]

theorem render_eq_of_some {name : String} (h : settings.enclosing = some name) (bodies : PerTag String) :
    render schema settings bodies =
      concat (usings.map (closed settings.lineEnding))
        ++ ("namespace " ++ name) ++ settings.lineEnding.text
        ++ ("\x7b" ++ (settings.lineEnding.text ++
          classText schema settings (concat (bodies.toList.map (closed settings.lineEnding)))) ++ "\x7d")
        ++ settings.lineEnding.text ++ settings.lineEnding.text := by
  simp [render, opening, closing, h, concat_append, closed, classText, toString, String.append_assoc]

theorem closed_classText (h : schema.Valid) (hs : settings.Usable) {inside : String}
    {ls : List (List Char)} (hi : Closed inside ls) : Closed (classText schema settings inside) ls := by
  have hending := Closed.ending settings.lineEnding
  have hindent := Closed.tabs settings.classDepth
  have hhead : Closed ("public static class " ++ settings.className ++ " : object") [] := by
    refine Closed.of_avoids ?_
    simp only [Avoids.append_iff, avoids_marks_identifier hs.className]
    simp [Avoids, marks]
  have hfield : Closed ("public static " ++ schema.className ++ " " ++ schema.holder ++ " = new();") [] := by
    have hname : Closed ("public static " ++ schema.className ++ " " ++ schema.holder) [] := by
      have hclass : Avoids marks schema.className := avoids_marks_identifier h.name
      refine Closed.of_avoids ?_
      simp only [Avoids.append_iff, hclass, avoids_marks_holder h]
      simp [Avoids, marks]
    exact hname.append (Closed.call " = new" "" ";"
      (by simp [Avoids, marks]) (by simp [Avoids]) (by simp [Avoids, marks]))
  have hinner := (((((hending.append (Closed.tabs settings.memberDepth)).append hfield).append hending).append
    hending).append hi).append hindent
  have hclass := (((hindent.append hhead).append hending).append hindent).append hinner.braced
  simpa [classText] using hclass.append hending

theorem avoids_usings {forbidden : List Char} (hf : forbidden ⊆ marks ++ separators) :
    ∀ line ∈ usings, Avoids forbidden line := by
  have hall : usings.all (fun line => line.toList.all fun c => decide (c ∉ marks ++ separators)) = true := by
    decide +kernel
  intro line hline c hc hmem
  exact of_decide_eq_true (List.all_eq_true.mp (List.all_eq_true.mp hall line hline) c hc) (hf hmem)

theorem closed_usings (ending : LineEnding) : Closed (concat (usings.map (closed ending))) [] := by
  have hall : ∀ line ∈ usings, Avoids marks line := avoids_usings (List.subset_append_left ..)
  have hlines : ∀ line ∈ usings, Closed (closed ending line) [] := fun line hline =>
    (Closed.of_avoids (hall line hline)).append (Closed.ending ending)
  have hnone : (usings.flatMap fun _ => ([] : List (List Char))) = [] :=
    List.flatMap_eq_nil_iff.mpr fun _ _ => rfl
  rw [← hnone]
  exact Closed.concat hlines

theorem closed_bodies (h : schema.Valid) (hs : settings.Usable) (tags : List Tag) :
    Closed
      (concat (tags.map fun tag => closed settings.lineEnding ((Generation.bodies schema settings).get tag)))
      ((tags.flatMap (dispatchNames schema)).map written) := by
  rw [List.map_flatMap]
  refine Closed.concat fun tag _ => ?_
  rw [Generation.bodies, PerTag.get_ofFunction]
  have hbody : Closed (Line.renderAll settings.lineEnding settings.memberDepth (rendering schema settings tag))
      ((dispatchNames schema tag).map written) := closed_rendering h hs tag
  have hended := hbody.append (Closed.ending settings.lineEnding)
  rwa [List.append_nil] at hended

theorem closed_render (h : schema.Valid) (hs : settings.Usable) :
    Closed (render schema settings (Generation.bodies schema settings))
      ((Tag.all.flatMap (dispatchNames schema)).map written) := by
  have hbodies := closed_bodies h hs Tag.all
  have hinside : (Generation.bodies schema settings).toList.map (closed settings.lineEnding) =
      Tag.all.map fun tag => closed settings.lineEnding ((Generation.bodies schema settings).get tag) := by
    rw [PerTag.toList_eq_map, List.map_map]
    rfl
  have hclass := closed_classText h hs hbodies
  have husings := closed_usings settings.lineEnding
  have hending := Closed.ending settings.lineEnding
  cases he : settings.enclosing with
  | none =>
      rw [render_eq_of_none he, hinside]
      simpa using (husings.append hclass).append hending
  | some name =>
      have hnamespace : Closed ("namespace " ++ name) [] := by
        refine Closed.of_avoids (Avoids.append_iff.mpr ⟨by simp [Avoids, marks], ?_⟩)
        exact Avoids.mono (by decide) (Avoids.of_isNamespace (hs.enclosing name he))
      rw [render_eq_of_some he, hinside]
      simpa using ((((husings.append hnamespace).append hending).append
        (hending.append hclass).braced).append hending).append hending

theorem avoids_opening {forbidden : List Char} (hf : forbidden ⊆ '"' :: newLines) (hs : settings.Usable)
    (hclass : Avoids forbidden schema.className) (hholder : Avoids forbidden schema.holder) :
    ∀ line ∈ opening schema settings, Avoids forbidden line := by
  have hforeign : ('"' :: newLines).all (fun c => !Name.continues c) = true := by decide +kernel
  have htabs (depth : Nat) : Avoids forbidden (tabs depth) :=
    Avoids.tabs (fun hmem => absurd (hf hmem) (by decide)) depth
  have hfixed {text : String} (h : Avoids ('"' :: newLines) text) : Avoids forbidden text :=
    Avoids.mono hf h
  have hname : Avoids forbidden settings.className := hfixed (Avoids.identifier hforeign hs.className)
  have husings : ∀ line ∈ usings, Avoids forbidden line :=
    avoids_usings (List.Subset.trans hf (by decide))
  have hbrace : Avoids forbidden "\x7b" := hfixed (by simp [Avoids, newLines])
  have hclassLine : Avoids forbidden
      s!"{tabs settings.classDepth}public static class {settings.className} : object" := by
    simp only [toString, Avoids.append_iff, hname, htabs, and_true, true_and]
    exact ⟨hfixed (by simp [Avoids, newLines]), hfixed (by simp [Avoids, newLines])⟩
  have hfieldLine : Avoids forbidden
      s!"{tabs settings.memberDepth}public static {schema.className} {schema.holder} = new();" := by
    simp only [toString, Avoids.append_iff, hclass, hholder, htabs, and_true, true_and]
    exact ⟨⟨hfixed (by simp [Avoids, newLines]), hfixed (by simp [Avoids, newLines])⟩,
      hfixed (by simp [Avoids, newLines])⟩
  have hclassBrace : Avoids forbidden (tabs settings.classDepth ++ "\x7b") :=
    Avoids.append_iff.mpr ⟨htabs _, hbrace⟩
  have hempty : Avoids forbidden "" := hfixed (by simp [Avoids, newLines])
  cases he : settings.enclosing with
  | none =>
      simp only [opening, he, List.forall_mem_append, List.forall_mem_cons]
      exact ⟨⟨husings, List.forall_mem_nil _⟩, hclassLine, hclassBrace, hfieldLine, hempty,
        List.forall_mem_nil _⟩
  | some name =>
      have hnamespace : Avoids forbidden s!"namespace {name}" :=
        Avoids.append_iff.mpr ⟨hfixed (by simp [toString, Avoids, newLines]),
          hfixed (Avoids.segmented hforeign (by decide) (hs.enclosing name he))⟩
      simp only [opening, he, List.forall_mem_append, List.forall_mem_cons]
      exact ⟨⟨husings, hnamespace, hbrace, List.forall_mem_nil _⟩, hclassLine, hclassBrace, hfieldLine,
        hempty, List.forall_mem_nil _⟩

theorem avoids_quote_opening (h : schema.Valid) (hs : settings.Usable) :
    ∀ line ∈ opening schema settings, Avoids ['"'] line :=
  avoids_opening (by decide) hs (Avoids.mono (by decide) (avoids_marks_identifier h.name))
    (Avoids.mono (by decide) (avoids_marks_holder h))

theorem inCode_opening (h : schema.Valid) (hs : settings.Usable) :
    InCode (concat ((opening schema settings).map (closed settings.lineEnding))) [] := by
  have hlines : ∀ line ∈ opening schema settings, InCode (closed settings.lineEnding line) [] :=
    fun line hline => (InCode.of_avoids (avoids_quote_opening h hs line hline)).append
      (Closed.ending settings.lineEnding).inCode
  have hnone : ((opening schema settings).flatMap fun _ => ([] : List (List Char))) = [] :=
    List.flatMap_eq_nil_iff.mpr fun _ _ => rfl
  rw [← hnone]
  exact InCode.concat hlines

theorem render_eq_around (schema : Schema) (settings : Settings) (tag : Tag) (bodies : PerTag String) :
    ∃ (earlier : List Tag) (after : String), render schema settings bodies =
      concat ((opening schema settings).map (closed settings.lineEnding))
        ++ concat (earlier.map fun tag => closed settings.lineEnding (bodies.get tag))
        ++ bodies.get tag ++ after := by
  obtain ⟨earlier, later, hall⟩ := List.append_of_mem tag.mem_all
  refine ⟨earlier, settings.lineEnding.text ++
    concat (later.map fun tag => closed settings.lineEnding (bodies.get tag)) ++
      concat ((closing settings).map (closed settings.lineEnding)), ?_⟩
  have hbodies : bodies.toList.map (closed settings.lineEnding) =
      earlier.map (fun tag => closed settings.lineEnding (bodies.get tag)) ++
        closed settings.lineEnding (bodies.get tag) ::
          later.map fun tag => closed settings.lineEnding (bodies.get tag) := by
    rw [PerTag.toList_eq_map, hall, List.map_map, List.map_append, List.map_cons]
    rfl
  rw [render, hbodies, concat_append, concat_cons, closed]
  simp only [String.append_assoc]

end Module

theorem scan_generated {schema : Schema} {settings : Settings} {m : Module}
    (h : (Generation.generate schema settings).result = .ok m) (hv : settings.validates = true) :
    (Scan.of m.source).place = .code ∧ (Scan.of m.source).braces = 0 ∧ (Scan.of m.source).parens = 0 ∧
      (∀ p, p <+: m.source.toList → (Scan.start.past p).Sound) ∧
      (Scan.of m.source).literals.map decode? = (Tag.all.flatMap (dispatchNames schema)).map some ∧
      ∀ tag, ∃ before after inside, m.source = before ++ m.bodies.get tag ++ after ∧
        (Scan.of before).place = .code ∧ (Scan.of (before ++ m.bodies.get tag)).place = .code ∧
        (Scan.of (before ++ m.bodies.get tag)).literals = (Scan.of before).literals ++ inside ∧
        inside.map decode? = (dispatchNames schema tag).map some := by
  obtain ⟨hadmits, rfl⟩ := Generation.generate_eq_ok_iff.mp h
  have hs := Settings.problem?_eq_none_iff.mp hadmits.usable
  have hvalid := Schema.problem?_eq_none_iff.mp (hadmits.accepted hv)
  have hsource := Module.closed_render hvalid hs
  simp only [Generation.moduleFor]
  refine ⟨by rw [hsource.scan], by rw [hsource.scan], by rw [hsource.scan], hsource.sound,
    by rw [hsource.scan, map_decode?_written], fun tag => ?_⟩
  obtain ⟨earlier, after, haround⟩ := Module.render_eq_around schema settings tag
    (Generation.bodies schema settings)
  have hbefore := (Module.inCode_opening hvalid hs).append (Module.closed_bodies hvalid hs earlier).inCode
  have hbody : InCode ((Generation.bodies schema settings).get tag)
      ((dispatchNames schema tag).map written) := by
    rw [Generation.bodies, PerTag.get_ofFunction]
    exact (closed_rendering hvalid hs tag).inCode
  have hboth := hbefore.append hbody
  exact ⟨_, after, _, haround, hbefore.place, hboth.place,
    by rw [hboth.literals, hbefore.literals], map_decode?_written _⟩

def blankSchema : Schema :=
  ⟨"Pad\r", [⟨"On\tFoot", [⟨"Go\nUp", .vector2⟩, ⟨"Look", .boolean⟩]⟩,
    ⟨"In Air", [⟨"Go\nUp", .vector2⟩]⟩]⟩

def blankSettings : Settings :=
  { Settings.default with enclosing := some "Game.Input", lineEnding := .crlf }

theorem admits_blank : Generation.Admits blankSchema blankSettings where
  usable := by decide
  apart := by decide
  accepted := by decide
  unshadowed := by decide

theorem scan_generated_blank :
    (Generation.generate blankSchema blankSettings).result =
        .ok (Generation.moduleFor blankSchema blankSettings) ∧
      blankSettings.validates = true ∧
      (Scan.of (Generation.moduleFor blankSchema blankSettings).source).literals.map decode? =
        ["On\tFoot", "Go\nUp", "In Air", "Go\nUp", "Go\nUp", "On\tFoot", "Look", "In Air",
          "Look"].map some := by
  have hok := Generation.generate_eq_ok_iff.mpr ⟨admits_blank, rfl⟩
  have h := scan_generated hok rfl
  exact ⟨hok, rfl, h.2.2.2.2.1.trans (by decide)⟩

end ActionLookup
