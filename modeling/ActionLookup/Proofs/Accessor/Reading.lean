import Mathlib.Data.List.Basic
import ActionLookup.Proofs.Generation.Success
import ActionLookup.Proofs.Text.Avoidance

/-!
The lines of a generated accessor, read back from its text. No name can bring in a line break or
a leading tab, so cutting at the line ending gives exactly the lines written (`linesOf_body`).
-/

namespace ActionLookup

open Text

namespace Text

def cutAt (separator : List Char) : List Char → List (List Char)
  | [] => [[]]
  | c :: rest =>
      if separator.isPrefixOf (c :: rest) then
        [] :: cutAt separator (rest.drop (separator.length - 1))
      else (cutAt separator rest).modifyHead (c :: ·)
  termination_by cs => cs.length
  decreasing_by
    · simp only [List.length_drop, List.length_cons]
      omega
    · simp

theorem cutAt_append {s : Char} {more piece : List Char} (h : s ∉ piece) (rest : List Char) :
    cutAt (s :: more) (piece ++ (s :: more) ++ rest) = piece :: cutAt (s :: more) rest := by
  induction piece with
  | nil =>
      have hpre : (s :: more).isPrefixOf (s :: (more ++ rest)) = true := by simp
      rw [List.nil_append, List.cons_append, cutAt, if_pos hpre]
      simp
  | cons c piece ih =>
      have hne : s ≠ c := fun e => h (e ▸ List.mem_cons_self ..)
      have hpre : ¬(s :: more).isPrefixOf (c :: (piece ++ (s :: more) ++ rest)) = true := by
        simp [hne]
      rw [List.cons_append, List.cons_append, cutAt, if_neg hpre,
        ih fun hm => h (List.mem_cons_of_mem _ hm)]
      rfl

def linesOf (ending : LineEnding) (text : String) : List String :=
  (cutAt ending.text.toList text.toList).map fun cs => String.ofList (cs.dropWhile fun c => c = '\t')

def untabbed (text : String) : String := String.ofList (text.toList.dropWhile fun c => c = '\t')

theorem linesOf_empty (ending : LineEnding) : linesOf ending "" = [""] := by
  simp [linesOf, cutAt]

theorem cutAt_ended (ending : LineEnding) {line : String} (h : Avoids ['\n', '\r'] line) (rest : String) :
    cutAt ending.text.toList (line ++ ending.text ++ rest).toList =
      line.toList :: cutAt ending.text.toList rest.toList := by
  rw [String.toList_append, String.toList_append]
  cases ending with
  | lf => exact cutAt_append (fun hm => h _ hm (by decide)) _
  | crlf => exact cutAt_append (fun hm => h _ hm (by decide)) _

theorem linesOf_ended (ending : LineEnding) {line : String} (h : Avoids ['\n', '\r'] line) (rest : String) :
    linesOf ending (line ++ ending.text ++ rest) = untabbed line :: linesOf ending rest := by
  rw [linesOf, cutAt_ended ending h, List.map_cons]
  rfl

theorem dropWhile_tabs {text : String} (h : Avoids ['\t'] text) (depth : Nat) :
    (tabs depth ++ text).toList.dropWhile (fun c => c = '\t') = text.toList := by
  have htabs : ∀ c ∈ (tabs depth).toList, (decide (c = '\t')) = true := by
    intro c hc
    rw [tabs, String.toList_ofList] at hc
    simpa using List.eq_of_mem_replicate hc
  rw [String.toList_append, List.dropWhile_append_of_pos htabs]
  cases hcs : text.toList with
  | nil => rfl
  | cons c cs =>
      have hc : c ≠ '\t' := by
        have hmem := h c (by rw [hcs]; exact List.mem_cons_self ..)
        simpa using hmem
      rw [List.dropWhile_cons_of_neg (by simpa using hc)]

theorem untabbed_tabs {text : String} (h : Avoids ['\t'] text) (depth : Nat) :
    untabbed (tabs depth ++ text) = text := by
  rw [untabbed, dropWhile_tabs h, String.ofList_toList]

end Text

/-- What would end a line or be taken for its indentation. -/
def breaks : List Char := ['\n', '\r', '\t']

namespace Line

def tabbed (depth : Nat) : Line → String
  | .indented level text => tabs (depth + level) ++ text
  | .bare => ""

theorem render_eq (ending : LineEnding) (depth : Nat) (line : Line) :
    line.render ending depth = line.tabbed depth ++ ending.text := by
  cases line with
  | indented level text => rfl
  | bare => simp [render, tabbed]

theorem avoids_tabbed {line : Line} (h : Avoids breaks line.content) (depth : Nat) :
    Avoids ['\n', '\r'] (line.tabbed depth) := by
  cases line with
  | indented level text =>
      exact Avoids.append_iff.mpr ⟨Avoids.tabs (by decide) _, Avoids.mono (by decide) h⟩
  | bare => exact fun c hc => absurd hc (by simp [tabbed])

theorem untabbed_tabbed {line : Line} (h : Avoids breaks line.content) (depth : Nat) :
    untabbed (line.tabbed depth) = line.content := by
  cases line with
  | indented level text => exact untabbed_tabs (Avoids.mono (by decide) h) _
  | bare => rfl

theorem linesOf_renderAll_append {ending : LineEnding} {depth : Nat} {lines : List Line}
    (h : ∀ line ∈ lines, Avoids breaks line.content) (rest : String) :
    linesOf ending (renderAll ending depth lines ++ rest) = lines.map content ++ linesOf ending rest := by
  induction lines with
  | nil => simp
  | cons line lines ih =>
      have hline := h line (List.mem_cons_self ..)
      have hrest := ih fun l hl => h l (List.mem_cons_of_mem _ hl)
      have htext : renderAll ending depth (line :: lines) ++ rest =
          line.tabbed depth ++ ending.text ++ (renderAll ending depth lines ++ rest) := by
        rw [← render_eq, ← String.append_assoc]
        rfl
      rw [htext, linesOf_ended ending (avoids_tabbed hline depth), untabbed_tabbed hline, hrest]
      rfl

theorem linesOf_renderAll {ending : LineEnding} {depth : Nat} {lines : List Line}
    (h : ∀ line ∈ lines, Avoids breaks line.content) :
    linesOf ending (renderAll ending depth lines) = lines.map content ++ [""] := by
  have hlines : linesOf ending (renderAll ending depth lines ++ "") =
      lines.map content ++ linesOf ending "" := linesOf_renderAll_append h ""
  rwa [String.append_empty, linesOf_empty] at hlines

end Line

def Schema.labelled (s : Schema) : List String :=
  s.groups.flatMap fun g => g.name :: g.bindings.map Binding.name

theorem Schema.name_mem_labelled {s : Schema} {g : Group} (hg : g ∈ s.groups) : g.name ∈ s.labelled :=
  List.mem_flatMap.mpr ⟨g, hg, List.mem_cons_self ..⟩

theorem Schema.binding_mem_labelled {s : Schema} {g : Group} {b : Binding} (hg : g ∈ s.groups)
    (hb : b ∈ g.bindings) : b.name ∈ s.labelled :=
  List.mem_flatMap.mpr ⟨g, hg, List.mem_cons_of_mem _ (List.mem_map_of_mem hb)⟩

namespace Accessor

theorem avoids_holder (schema : Schema) : Avoids separators schema.holder :=
  Avoids.lowercase (by decide) (Avoids.stripped (by decide) schema.name)

theorem avoids_blanks_holder (schema : Schema) : Avoids blanks schema.holder :=
  Avoids.lowercase (by decide) (Avoids.strip schema.name)

theorem avoids_returnLive {target : String} (h : Avoids separators target) (t : ValueType) :
    Avoids separators (returnLive t target) := by
  cases t with
  | vector2 =>
      simp only [returnLive_vector2, Avoids.append_iff, h]
      simp [Avoids, separators, newLines]
  | boolean =>
      simp only [returnLive_boolean, Avoids.append_iff, h]
      simp [Avoids, separators, newLines]

theorem avoids_returnRest (t : ValueType) : Avoids separators (returnRest t) := by
  cases t with
  | vector2 =>
      change Avoids separators "return new Vector2(0f, 0f);"
      simp [Avoids, separators, newLines]
  | boolean =>
      change Avoids separators "return false;"
      simp [Avoids, separators, newLines]

theorem avoids_signature {settings : Settings} (h : settings.Usable) (tag : Tag) :
    Avoids separators (signature settings tag) := by
  have hv : Avoids separators settings.vectorFunction := Avoids.separators_of_isIdentifier h.vectorFunction
  have hb : Avoids separators settings.buttonFunction := Avoids.separators_of_isIdentifier h.buttonFunction
  obtain ⟨t, q⟩ := tag
  cases t <;> cases q
  · rw [signature_vector_unqualified]
    simp only [Avoids.append_iff, hv]
    simp [Avoids, separators, newLines]
  · rw [signature_vector_qualified]
    simp only [Avoids.append_iff, hv]
    simp [Avoids, separators, newLines]
  · rw [signature_boolean_unqualified]
    simp only [Avoids.append_iff, hb]
    simp [Avoids, separators, newLines]
  · rw [signature_boolean_qualified]
    simp only [Avoids.append_iff, hb]
    simp [Avoids, separators, newLines]

theorem avoids_label {forbidden : List Char} (hf : forbidden ⊆ separators) {name : String}
    (h : Avoids forbidden (quote name)) : Avoids forbidden (label name) := by
  have hcase : Avoids separators "case " := by simp [Avoids, separators, newLines]
  have hcolon : Avoids separators ":" := by simp [Avoids, separators, newLines]
  simp only [label_eq, Avoids.append_iff]
  exact ⟨⟨Avoids.mono hf hcase, h⟩, Avoids.mono hf hcolon⟩

theorem avoids_target (schema : Schema) (g : Group) (b : Binding) :
    Avoids separators (target schema.holder g b) := by
  have hstrip (name : String) : Avoids separators (Name.strip name) := Avoids.stripped (by decide) name
  simp only [target_eq, Avoids.append_iff, Group.identifier, Binding.identifier, avoids_holder, hstrip]
  simp [Avoids, separators, newLines]

theorem avoids_defaultLines (level : Nat) :
    ∀ line ∈ defaultLines level, Avoids separators line.content := by
  simp [defaultLines, Line.content, Avoids, separators, newLines]

theorem avoids_openBrace : Avoids separators openBrace := by
  simp [openBrace, Avoids, separators, newLines]

theorem avoids_closeBrace : Avoids separators closeBrace := by
  simp [closeBrace, Avoids, separators, newLines]

section Lines

variable {forbidden : List Char} {schema : Schema}

theorem avoids_armLines (hf : forbidden ⊆ separators) (level : Nat) {p : Group × Binding}
    (h : Avoids forbidden (quote p.2.name)) :
    ∀ line ∈ armLines level schema.holder p, Avoids forbidden line.content := by
  rw [armLines, List.forall_mem_cons, List.forall_mem_singleton]
  exact ⟨avoids_label hf h, Avoids.mono hf (avoids_returnLive (avoids_target schema p.1 p.2) _)⟩

theorem avoids_sectionLines (hf : forbidden ⊆ separators) (t : ValueType) {g : Group}
    (hg : Avoids forbidden (quote g.name)) (hb : ∀ b ∈ g.bindings, Avoids forbidden (quote b.name)) :
    ∀ line ∈ sectionLines schema.holder t g, Avoids forbidden line.content := by
  have hswitch : Avoids separators "switch(actionName)" := by simp [Avoids, separators, newLines]
  have hbreak : Avoids separators "break;" := by simp [Avoids, separators, newLines]
  have harms : ∀ line ∈ (g.ofType t).flatMap (fun b => armLines 4 schema.holder (g, b)),
      Avoids forbidden line.content := by
    intro line hline
    obtain ⟨b, hmem, hline⟩ := List.mem_flatMap.mp hline
    exact avoids_armLines hf 4 (p := (g, b)) (hb b (List.mem_filter.mp hmem).1) line hline
  simp only [sectionLines, List.forall_mem_append, List.forall_mem_cons]
  exact ⟨⟨⟨⟨avoids_label hf hg, Avoids.mono hf hswitch, Avoids.mono hf avoids_openBrace,
    List.forall_mem_nil _⟩, harms⟩, fun line hline => Avoids.mono hf (avoids_defaultLines 4 line hline)⟩,
    Avoids.mono hf avoids_closeBrace, Avoids.mono hf hbreak, List.forall_mem_nil _⟩

theorem avoids_choiceLines (hf : forbidden ⊆ separators)
    (h : ∀ name ∈ schema.labelled, Avoids forbidden (quote name)) (tag : Tag) :
    ∀ line ∈ choiceLines schema tag, Avoids forbidden line.content := by
  intro line hline
  obtain ⟨t, q⟩ := tag
  cases q with
  | false =>
      obtain ⟨p, hp, hline⟩ := List.mem_flatMap.mp hline
      obtain ⟨g, hg, hmap⟩ := List.mem_flatMap.mp (List.mem_filter.mp (mem_of_mem_firstOfName hp)).1
      obtain ⟨b, hb, rfl⟩ := List.mem_map.mp hmap
      exact avoids_armLines hf 2 (h _ (Schema.binding_mem_labelled hg hb)) line hline
  | true =>
      obtain ⟨g, hg, hline⟩ := List.mem_flatMap.mp hline
      exact avoids_sectionLines hf t (h _ (Schema.name_mem_labelled hg))
        (fun b hb => h _ (Schema.binding_mem_labelled hg hb)) line hline

theorem avoids_rendering {settings : Settings} (hf : forbidden ⊆ separators) (hs : settings.Usable)
    (h : ∀ name ∈ schema.labelled, Avoids forbidden (quote name)) (tag : Tag) :
    ∀ line ∈ rendering schema settings tag, Avoids forbidden line.content := by
  have henable : Avoids separators s!"{schema.holder}.Enable();" :=
    Avoids.append_iff.mpr ⟨avoids_holder schema, by simp [toString, Avoids, separators, newLines]⟩
  have hdisable : Avoids separators s!"{schema.holder}.Disable();" :=
    Avoids.append_iff.mpr ⟨avoids_holder schema, by simp [toString, Avoids, separators, newLines]⟩
  have hbare : Avoids separators "" := by simp [Avoids]
  have hswitch : Avoids separators (if tag.qualified then "switch(mapName)" else "switch(actionName)") := by
    cases tag.qualified <;> simp [Avoids, separators, newLines]
  have hfixed {text : String} (ha : Avoids separators text) : Avoids forbidden text := Avoids.mono hf ha
  simp only [rendering, List.forall_mem_append, List.forall_mem_cons]
  exact ⟨⟨⟨⟨hfixed (avoids_signature hs tag), hfixed avoids_openBrace, hfixed henable, hfixed hbare,
    hfixed hswitch, hfixed avoids_openBrace, List.forall_mem_nil _⟩, avoids_choiceLines hf h tag⟩,
    fun line hline => hfixed (avoids_defaultLines 2 line hline)⟩, hfixed avoids_closeBrace, hfixed hdisable,
    hfixed (avoids_returnRest _), hfixed avoids_closeBrace, List.forall_mem_nil _⟩

end Lines

theorem avoids_breaks_rendering (schema : Schema) {settings : Settings} (h : settings.Usable) (tag : Tag) :
    ∀ line ∈ rendering schema settings tag, Avoids breaks line.content :=
  avoids_rendering (by decide) h (fun name _ => Avoids.quote (List.Subset.refl _) name) tag

theorem linesOf_body (schema : Schema) {settings : Settings} (h : settings.Usable) (tag : Tag) :
    linesOf settings.lineEnding ((Generation.bodies schema settings).get tag) =
      (rendering schema settings tag).map Line.content ++ [""] := by
  rw [Generation.bodies, PerTag.get_ofFunction]
  exact Line.linesOf_renderAll (avoids_breaks_rendering schema h tag)

end Accessor

end ActionLookup
