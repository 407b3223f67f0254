import ActionLookup.Proofs.Source.Determined
import ActionLookup.Proofs.Source.Lines
import ActionLookup.Proofs.Source.Names

/-!
The names that the source of the class has where the language has identifiers, read off its lines: they are
exactly the names made from the schema and the settings (`mem_namesIn_source_iff`). No check compares any of
them with the reserved words of the language, so exactly the reserved words among them are written
(`unreserved_generated_iff`).
-/

namespace ActionLookup

open Text Accessor

namespace Text

def parts (separator : Char) (text : String) : List String :=
  (text.toList.splitOn separator).map String.ofList

theorem parts_intercalate {separator : Char} {words : List String} (hne : words ≠ [])
    (h : ∀ word ∈ words, Avoids [separator] word) :
    parts separator ((String.singleton separator).intercalate words) = words := by
  have hwords : ∀ piece ∈ words.map String.toList, separator ∉ piece := by
    intro piece hpiece hmem
    obtain ⟨word, hword, rfl⟩ := List.mem_map.mp hpiece
    exact h word hword separator hmem (List.mem_singleton_self _)
  rw [parts, String.toList_intercalate, String.toList_singleton,
    List.splitOn_intercalate separator hwords (by simpa using hne), List.map_map]
  simp

theorem parts_append {separator : Char} {word : String} (h : Avoids [separator] word) (rest : String) :
    parts separator (word ++ String.singleton separator ++ rest) = word :: parts separator rest := by
  have hword : ∀ c ∈ word.toList, (c == separator) = false := by
    intro c hc
    exact beq_eq_false_iff_ne.mpr fun heq => h c hc (List.mem_singleton.mpr heq)
  have hcut : (word.toList ++ separator :: rest.toList).splitOn separator =
      word.toList :: rest.toList.splitOn separator :=
    List.splitOnP_append_cons_of_forall_mem hword separator (beq_self_eq_true _) rest.toList
  rw [parts, String.toList_append, String.toList_append, String.toList_singleton, List.append_assoc,
    List.singleton_append, hcut, List.map_cons, String.ofList_toList]
  rfl

theorem parts_ne_nil (separator : Char) (text : String) : parts separator text ≠ [] := by
  simp [parts, List.splitOn_ne_nil]

end Text

/-! ### Names on a line -/

def beforeParameters (word : String) : String := String.ofList (word.toList.takeWhile fun c => c ≠ '(')

/-- The names through which a member is read, from the outermost on. -/
def ownersIn (word : String) : List String := (parts '.' word).dropLast

/-- A class, a field with its type, or a function: what is behind the name tells them apart. -/
def declaredBy : List String → List String
  | _ :: type :: name :: mark :: _ =>
      if mark = ":" then [name]
      else if mark = "=" then [type, name]
      else [beforeParameters name]
  | _ => []

/-- What a line has where the language has identifiers, but for the parameters and for what is not generated. -/
def namesOn (line : String) : List String :=
  match parts ' ' line with
  | [] => []
  | [statement] => ownersIn statement
  | keyword :: words =>
      if keyword = "namespace" then words.flatMap (parts '.')
      else if keyword = "public" then declaredBy words
      else if keyword = "return" then words.flatMap ownersIn
      else []

def namesIn (lines : List String) : List String := lines.flatMap namesOn

theorem mem_namesIn_append {name : String} {lines more : List String} :
    name ∈ namesIn (lines ++ more) ↔ name ∈ namesIn lines ∨ name ∈ namesIn more := by
  rw [namesIn, List.flatMap_append, List.mem_append]
  rfl

theorem mem_namesIn_cons {name line : String} {lines : List String} :
    name ∈ namesIn (line :: lines) ↔ name ∈ namesOn line ∨ name ∈ namesIn lines := by
  rw [namesIn, List.flatMap_cons, List.mem_append]
  rfl

theorem mem_namesIn_flatMap {α : Type} {name : String} {items : List α} {lines : α → List String} :
    name ∈ namesIn (items.flatMap lines) ↔ ∃ x ∈ items, name ∈ namesIn (lines x) := by
  rw [namesIn, List.flatMap_assoc, List.mem_flatMap]
  rfl

@[simp] theorem namesIn_nil : namesIn [] = [] := rfl

theorem namesIn_eq_nil {lines : List String} (h : ∀ line ∈ lines, namesOn line = []) : namesIn lines = [] :=
  List.flatMap_eq_nil_iff.mpr h

theorem namesOn_empty : namesOn "" = [] := by decide

theorem namesOn_openBrace : namesOn openBrace = [] := by decide

theorem namesOn_closeBrace : namesOn closeBrace = [] := by decide

def gaps : List Char := [' ', '.']

theorem avoids_gaps_of_isIdentifier {name : String} (h : Name.isIdentifier name = true) : Avoids gaps name :=
  Avoids.identifier (by decide) h

theorem avoids_gaps_holder {schema : Schema} (h : schema.Valid) : Avoids gaps schema.holder :=
  Avoids.lowercase (by decide) (avoids_gaps_of_isIdentifier h.name)

section Lines

variable {line name path holder : String}

theorem parts_line {words : List String} (hline : line = " ".intercalate words) (hne : words ≠ [])
    (h : ∀ word ∈ words, Avoids [' '] word) : parts ' ' line = words := by
  rw [hline]
  exact parts_intercalate hne h

theorem namesOn_namespace (h : Avoids [' '] path) : namesOn s!"namespace {path}" = parts '.' path := by
  have hwords : parts ' ' s!"namespace {path}" = ["namespace", path] :=
    parts_line (String.toList_inj.mp (by simp [toString])) (by simp) (by simpa [Avoids] using h)
  simp [namesOn, hwords]

theorem namesOn_classLine (h : Avoids [' '] name) :
    namesOn s!"public static class {name} : object" = [name] := by
  have hwords : parts ' ' s!"public static class {name} : object" =
      ["public", "static", "class", name, ":", "object"] :=
    parts_line (String.toList_inj.mp (by simp [toString])) (by simp) (by simpa [Avoids] using h)
  simp [namesOn, hwords, declaredBy]

theorem namesOn_fieldText {schema : Schema} (h : schema.Valid) :
    namesOn (Module.fieldText schema) = [schema.className, schema.holder] := by
  have hclass : Avoids [' '] schema.className :=
    Avoids.mono (by decide) (avoids_gaps_of_isIdentifier h.name)
  have hholder : Avoids [' '] schema.holder := Avoids.mono (by decide) (avoids_gaps_holder h)
  have hwords : parts ' ' (Module.fieldText schema) =
      ["public", "static", schema.className, schema.holder, "=", "new();"] :=
    parts_line (String.toList_inj.mp (by simp [Module.fieldText_eq])) (by simp) (by
      simp only [List.forall_mem_cons, hclass, hholder]
      simp [Avoids])
  simp [namesOn, hwords, declaredBy]

theorem beforeParameters_eq (h : Avoids ['('] name) : beforeParameters (name ++ "(string") = name := by
  have hname : ∀ c ∈ name.toList, decide (c ≠ '(') = true :=
    fun c hc => decide_eq_true fun heq => h c hc (List.mem_singleton.mpr heq)
  rw [beforeParameters, String.toList_append, List.takeWhile_append_of_pos hname]
  simp

theorem namesOn_function (result mark : String) (more : List String) (hname : Name.isIdentifier name = true)
    (hline : line = " ".intercalate ("public" :: "static" :: result :: (name ++ "(string") :: mark :: more))
    (hplain : ∀ word ∈ result :: mark :: more, Avoids [' '] word) (hmark : mark ≠ ":" ∧ mark ≠ "=") :
    namesOn line = [name] := by
  have hspace : Avoids [' '] name := Avoids.mono (by decide) (avoids_gaps_of_isIdentifier hname)
  have hparen : Avoids ['('] name := Avoids.mono (by decide) (Avoids.of_isIdentifier hname)
  have hwords : parts ' ' line =
      "public" :: "static" :: result :: (name ++ "(string") :: mark :: more := by
    refine parts_line hline (by simp) ?_
    simp only [List.forall_mem_cons, Avoids.append_iff, hspace] at hplain ⊢
    exact ⟨by simp [Avoids], by simp [Avoids], hplain.1, ⟨trivial, by simp [Avoids]⟩, hplain.2⟩
  simp [namesOn, hwords, declaredBy, hmark, beforeParameters_eq hparen]

theorem namesOn_signature {settings : Settings} (hs : settings.Usable) (tag : Tag) :
    namesOn (signature settings tag) = [settings.accessorName tag.valueType] := by
  obtain ⟨t, q⟩ := tag
  cases t <;> cases q
  · exact namesOn_function "Vector2" "actionName)" [] hs.vectorFunction
      (String.toList_inj.mp (by simp [signature_vector_unqualified, Settings.accessorName]))
      (by simp [Avoids]) (by decide)
  · exact namesOn_function "Vector2" "actionName," ["string", "mapName)"] hs.vectorFunction
      (String.toList_inj.mp (by simp [signature_vector_qualified, Settings.accessorName]))
      (by simp [Avoids]) (by decide)
  · exact namesOn_function "bool" "actionName," ["bool", "held)"] hs.buttonFunction
      (String.toList_inj.mp (by simp [signature_boolean_unqualified, Settings.accessorName]))
      (by simp [Avoids]) (by decide)
  · exact namesOn_function "bool" "actionName," ["bool", "held,", "string", "mapName)"] hs.buttonFunction
      (String.toList_inj.mp (by simp [signature_boolean_qualified, Settings.accessorName]))
      (by simp [Avoids]) (by decide)

theorem namesOn_label (name : String) : namesOn (label name) = [] := by
  have hcase : label name = "case" ++ " " ++ (quote name ++ ":") :=
    String.toList_inj.mp (by simp [label_eq])
  have hwords : parts ' ' (label name) = "case" :: parts ' ' (quote name ++ ":") := by
    rw [hcase]
    exact parts_append (by simp [Avoids]) _
  obtain ⟨first, more, hmore⟩ := List.exists_cons_of_ne_nil (parts_ne_nil ' ' (quote name ++ ":"))
  simp [namesOn, hwords, hmore]

theorem ownersIn_path {owners : List String} {member : String} (h : ∀ owner ∈ owners, Avoids ['.'] owner)
    (hmember : Avoids ['.'] member) : ownersIn (".".intercalate (owners ++ [member])) = owners := by
  have hall : ∀ part ∈ owners ++ [member], Avoids ['.'] part :=
    List.forall_mem_append.mpr ⟨h, List.forall_mem_singleton.mpr hmember⟩
  have hparts : parts '.' (".".intercalate (owners ++ [member])) = owners ++ [member] :=
    parts_intercalate (by simp) hall
  rw [ownersIn, hparts, List.dropLast_concat]

theorem namesOn_call {member : String} (h : Avoids gaps holder) (hmember : Avoids gaps member) :
    namesOn (holder ++ "." ++ member) = [holder] := by
  have hspace : Avoids [' '] (holder ++ "." ++ member) := by
    simp only [Avoids.append_iff]
    exact ⟨⟨Avoids.mono (by decide) h, by simp [Avoids]⟩, Avoids.mono (by decide) hmember⟩
  have hwords : parts ' ' (holder ++ "." ++ member) = [holder ++ "." ++ member] :=
    parts_line (by simp) (by simp) (List.forall_mem_singleton.mpr hspace)
  have hpath : holder ++ "." ++ member = ".".intercalate ([holder] ++ [member]) :=
    String.toList_inj.mp (by simp)
  have howners : ownersIn (holder ++ "." ++ member) = [holder] := by
    rw [hpath]
    exact ownersIn_path (List.forall_mem_singleton.mpr (Avoids.mono (by decide) h))
      (Avoids.mono (by decide) hmember)
  simp only [namesOn, hwords, howners]

end Lines

/-! ### Names in the accessors -/

namespace Schema

variable {schema : Schema} {p : Group × Binding}

theorem mem_placed_iff : p ∈ schema.placed ↔ p.1 ∈ schema.groups ∧ p.2 ∈ p.1.bindings := by
  constructor
  · intro hp
    obtain ⟨g, hg, hmap⟩ := List.mem_flatMap.mp hp
    obtain ⟨b, hb, rfl⟩ := List.mem_map.mp hmap
    exact ⟨hg, hb⟩
  · exact fun ⟨hg, hb⟩ => List.mem_flatMap.mpr ⟨p.1, hg, List.mem_map_of_mem hb⟩

def accessPath (schema : Schema) (p : Group × Binding) : List String :=
  [schema.holder, p.1.identifier, p.2.identifier]

theorem avoids_gaps_accessPath (h : schema.Valid) (hp : p ∈ schema.placed) :
    ∀ name ∈ schema.accessPath p, Avoids gaps name := by
  obtain ⟨hg, hb⟩ := mem_placed_iff.mp hp
  simp only [accessPath, List.forall_mem_cons]
  exact ⟨avoids_gaps_holder h, avoids_gaps_of_isIdentifier (h.groups p.1 hg),
    avoids_gaps_of_isIdentifier (h.bindings p.1 hg p.2 hb), List.forall_mem_nil _⟩

theorem ownersIn_target (h : schema.Valid) (hp : p ∈ schema.placed) {member : String}
    (hmember : Avoids ['.'] member) :
    ownersIn (target schema.holder p.1 p.2 ++ "." ++ member) = schema.accessPath p := by
  have hpath : target schema.holder p.1 p.2 ++ "." ++ member =
      ".".intercalate (schema.accessPath p ++ [member]) :=
    String.toList_inj.mp (by simp [target_eq, accessPath])
  rw [hpath]
  exact ownersIn_path (fun name hname => Avoids.mono (by decide) (avoids_gaps_accessPath h hp name hname)) hmember

theorem avoids_space_target (h : schema.Valid) (hp : p ∈ schema.placed) :
    Avoids [' '] (target schema.holder p.1 p.2) := by
  have hall : ∀ name ∈ schema.accessPath p, Avoids [' '] name :=
    fun name hname => Avoids.mono (by decide) (avoids_gaps_accessPath h hp name hname)
  simp only [accessPath, List.forall_mem_cons] at hall
  simp only [target_eq, Avoids.append_iff, hall, true_and, and_true]
  simp [Avoids]

theorem mem_namesOn_returnLive (h : schema.Valid) (hp : p ∈ schema.placed) (t : ValueType) {name : String} :
    name ∈ namesOn (returnLive t (target schema.holder p.1 p.2)) ↔ name ∈ schema.accessPath p := by
  have hspace := avoids_space_target h hp
  cases t with
  | vector2 =>
    have hwords : parts ' ' (returnLive .vector2 (target schema.holder p.1 p.2)) =
        ["return", target schema.holder p.1 p.2 ++ "." ++ "ReadValue<Vector2>();"] :=
      parts_line (String.toList_inj.mp (by simp [returnLive_vector2])) (by simp) (by
        simp only [List.forall_mem_cons, Avoids.append_iff, hspace]
        simp [Avoids])
    have howners := ownersIn_target h hp (show Avoids ['.'] "ReadValue<Vector2>();" by simp [Avoids])
    simp [namesOn, hwords, howners]
  | boolean =>
    have hwords : parts ' ' (returnLive .boolean (target schema.holder p.1 p.2)) =
        ["return", "held", "?", target schema.holder p.1 p.2 ++ "." ++ "triggered", ":",
          target schema.holder p.1 p.2 ++ "." ++ "ReadValue<bool>();"] :=
      parts_line (String.toList_inj.mp (by simp [returnLive_boolean])) (by simp) (by
        simp only [List.forall_mem_cons, Avoids.append_iff, hspace]
        simp [Avoids])
    have htriggered := ownersIn_target h hp (show Avoids ['.'] "triggered" by simp [Avoids])
    have hread := ownersIn_target h hp (show Avoids ['.'] "ReadValue<bool>();" by simp [Avoids])
    have hplain : ["held", "?", ":"].flatMap ownersIn = [] := by decide
    simp only [List.flatMap_cons, List.flatMap_nil, List.append_eq_nil_iff] at hplain
    simp [namesOn, hwords, htriggered, hread, hplain]

end Schema

namespace Accessor

variable {schema : Schema} {settings : Settings} {name : String}

def contents (lines : List Line) : List String := lines.map Line.content

theorem mem_namesIn_contents_flatMap {α : Type} {items : List α} {lines : α → List Line} :
    name ∈ namesIn (contents (items.flatMap lines)) ↔ ∃ x ∈ items, name ∈ namesIn (contents (lines x)) := by
  rw [contents, List.map_flatMap, mem_namesIn_flatMap]
  rfl

theorem mem_namesIn_armLines (h : schema.Valid) {p : Group × Binding} (hp : p ∈ schema.placed) (level : Nat) :
    name ∈ namesIn (contents (armLines level schema.holder p)) ↔ name ∈ schema.accessPath p := by
  have hlabel : namesOn s!"case {quote p.2.name}:" = [] := namesOn_label p.2.name
  have hlines : contents (armLines level schema.holder p) =
      [s!"case {quote p.2.name}:", returnLive p.2.valueType (target schema.holder p.1 p.2)] := rfl
  rw [hlines, mem_namesIn_cons, hlabel, mem_namesIn_cons, Schema.mem_namesOn_returnLive h hp]
  simp

theorem namesIn_defaultLines (level : Nat) : namesIn (contents (defaultLines level)) = [] := by
  have hlines : contents (defaultLines level) = ["default:", "break;"] := rfl
  rw [hlines]
  decide

theorem mem_namesIn_sectionLines (h : schema.Valid) {g : Group} (hg : g ∈ schema.groups) (t : ValueType) :
    name ∈ namesIn (contents (sectionLines schema.holder t g)) ↔
      ∃ b ∈ g.ofType t, name ∈ schema.accessPath (g, b) := by
  have hlines : contents (sectionLines schema.holder t g) =
      [s!"case {quote g.name}:", "switch(actionName)", openBrace] ++
        contents ((g.ofType t).flatMap fun b => armLines 4 schema.holder (g, b)) ++
        contents (defaultLines 4) ++ [closeBrace, "break;"] := by
    simp [sectionLines, contents, Line.content]
  have hlabel : namesOn s!"case {quote g.name}:" = [] := namesOn_label g.name
  have hopening : namesIn ["switch(actionName)", openBrace] = [] := by decide
  have hclosing : namesIn [closeBrace, "break;"] = [] := by decide
  have harm : ∀ b ∈ g.ofType t,
      (name ∈ namesIn (contents (armLines 4 schema.holder (g, b))) ↔ name ∈ schema.accessPath (g, b)) :=
    fun b hb => mem_namesIn_armLines h (Schema.mem_placed_iff.mpr ⟨hg, (List.mem_filter.mp hb).1⟩) 4
  rw [hlines, mem_namesIn_append, mem_namesIn_append, mem_namesIn_append, mem_namesIn_cons, hlabel, hopening,
    hclosing, namesIn_defaultLines, mem_namesIn_contents_flatMap]
  simp only [List.not_mem_nil, or_false, false_or]
  exact exists_congr fun b => and_congr_right fun hb => harm b hb

theorem mem_namesIn_choiceLines_qualified (h : schema.Valid) (t : ValueType) :
    name ∈ namesIn (contents (choiceLines schema ⟨t, true⟩)) ↔
      ∃ p ∈ schema.placedOf t, name ∈ schema.accessPath p := by
  rw [choiceLines, mem_namesIn_contents_flatMap]
  constructor
  · rintro ⟨g, hg, hname⟩
    obtain ⟨b, hb, hname⟩ := (mem_namesIn_sectionLines h hg t).mp hname
    obtain ⟨hmem, htype⟩ := List.mem_filter.mp hb
    have hplaced : (g, b) ∈ schema.placed := Schema.mem_placed_iff.mpr ⟨hg, hmem⟩
    exact ⟨(g, b), List.mem_filter.mpr ⟨hplaced, htype⟩, hname⟩
  · rintro ⟨p, hp, hname⟩
    obtain ⟨hplaced, htype⟩ := List.mem_filter.mp hp
    obtain ⟨hg, hb⟩ := Schema.mem_placed_iff.mp hplaced
    exact ⟨p.1, hg, (mem_namesIn_sectionLines h hg t).mpr ⟨p.2, List.mem_filter.mpr ⟨hb, htype⟩, hname⟩⟩

theorem exists_placed_of_unqualified (h : schema.Valid) {t : ValueType}
    (hname : name ∈ namesIn (contents (choiceLines schema ⟨t, false⟩))) :
    ∃ p ∈ schema.placed, name ∈ schema.accessPath p := by
  rw [choiceLines, mem_namesIn_contents_flatMap] at hname
  obtain ⟨p, hp, hname⟩ := hname
  have hplaced : p ∈ schema.placed := (List.mem_filter.mp (mem_of_mem_firstOfName hp)).1
  exact ⟨p, hplaced, (mem_namesIn_armLines h hplaced 2).mp hname⟩

theorem exists_mem_namesIn_choiceLines (h : schema.Valid) :
    (∃ tag, name ∈ namesIn (contents (choiceLines schema tag))) ↔
      ∃ p ∈ schema.placed, name ∈ schema.accessPath p := by
  constructor
  · rintro ⟨⟨t, q⟩, hname⟩
    cases q with
    | false => exact exists_placed_of_unqualified h hname
    | true =>
      obtain ⟨p, hp, hname⟩ := (mem_namesIn_choiceLines_qualified h t).mp hname
      exact ⟨p, (List.mem_filter.mp hp).1, hname⟩
  · rintro ⟨p, hp, hname⟩
    refine ⟨⟨p.2.valueType, true⟩, (mem_namesIn_choiceLines_qualified h p.2.valueType).mpr ⟨p, ?_, hname⟩⟩
    exact List.mem_filter.mpr ⟨hp, decide_eq_true rfl⟩

theorem contents_rendering (schema : Schema) (settings : Settings) (tag : Tag) :
    contents (rendering schema settings tag) =
      [signature settings tag, openBrace, schema.holder ++ "." ++ "Enable();", "",
        if tag.qualified then "switch(mapName)" else "switch(actionName)", openBrace] ++
        contents (choiceLines schema tag) ++ contents (defaultLines 2) ++
        [closeBrace, schema.holder ++ "." ++ "Disable();", returnRest tag.valueType, closeBrace] := by
  have henable : s!"{schema.holder}.Enable();" = schema.holder ++ "." ++ "Enable();" :=
    String.toList_inj.mp (by simp [toString])
  have hdisable : s!"{schema.holder}.Disable();" = schema.holder ++ "." ++ "Disable();" :=
    String.toList_inj.mp (by simp [toString])
  simp only [rendering, contents, List.map_append, List.map_cons, List.map_nil, Line.content, henable, hdisable]

theorem mem_namesIn_rendering (h : schema.Valid) (hs : settings.Usable) (tag : Tag) :
    name ∈ namesIn (contents (rendering schema settings tag)) ↔
      name = settings.accessorName tag.valueType ∨ name = schema.holder ∨
        name ∈ namesIn (contents (choiceLines schema tag)) := by
  have hcall {member : String} (hmember : Avoids gaps member) :
      namesOn (schema.holder ++ "." ++ member) = [schema.holder] :=
    namesOn_call (avoids_gaps_holder h) hmember
  have henable := hcall (show Avoids gaps "Enable();" by simp [Avoids, gaps])
  have hdisable := hcall (show Avoids gaps "Disable();" by simp [Avoids, gaps])
  have hswitch : namesOn (if tag.qualified then "switch(mapName)" else "switch(actionName)") = [] := by
    cases tag.qualified <;> decide
  have hrest : namesOn (returnRest tag.valueType) = [] := by
    cases tag.valueType <;> decide
  rw [contents_rendering]
  simp only [mem_namesIn_append, mem_namesIn_cons, namesIn_nil, namesOn_signature hs, namesIn_defaultLines,
    namesOn_openBrace, namesOn_closeBrace, namesOn_empty, henable, hdisable, hswitch, hrest,
    List.mem_singleton, List.not_mem_nil, or_false, false_or]
  exact (or_iff_left_of_imp fun hname => .inl (.inr hname)).trans or_assoc

end Accessor

/-! ### Names in the source -/

namespace Module

variable {schema : Schema} {settings : Settings} {name : String}

theorem mem_namesIn_frontTexts (hs : settings.Usable) :
    name ∈ namesIn (frontTexts settings) ↔
      name = settings.className ∨ ∃ path, settings.enclosing = some path ∧ name ∈ parts '.' path := by
  have husings : namesIn usings = [] := by decide
  have hbrace : namesOn "\x7b" = [] := namesOn_openBrace
  have hclass : namesOn s!"public static class {settings.className} : object" = [settings.className] :=
    namesOn_classLine (Avoids.mono (by decide) (avoids_gaps_of_isIdentifier hs.className))
  cases he : settings.enclosing with
  | none =>
    simp only [frontTexts, he, mem_namesIn_append, mem_namesIn_cons, namesIn_nil, husings, hbrace, hclass]
    simp
  | some path =>
    have hpath : namesOn s!"namespace {path}" = parts '.' path :=
      namesOn_namespace (Avoids.mono (by decide) (Avoids.of_isNamespace (hs.enclosing path he)))
    simp only [frontTexts, he, mem_namesIn_append, mem_namesIn_cons, namesIn_nil, husings, hbrace,
      hclass, hpath]
    simp [or_comm]

theorem namesIn_closing (settings : Settings) :
    namesIn (linesOf settings.lineEnding
      (concat ((closing settings).map (closed settings.lineEnding)))) = [] := by
  have hlines : linesOf settings.lineEnding
        (concat ((closing settings).map (closed settings.lineEnding)) ++ "") =
      (closing settings).map untabbed ++ linesOf settings.lineEnding "" :=
    linesOf_concat (avoids_closing (by decide) settings) ""
  have hbrace : untabbed (tabs settings.classDepth ++ "\x7d") = "\x7d" :=
    untabbed_tabs (by simp [Avoids]) settings.classDepth
  have hplain : untabbed "\x7d" = "\x7d" ∧ untabbed "" = "" := by decide
  rw [String.append_empty, linesOf_empty] at hlines
  rw [hlines]
  refine namesIn_eq_nil fun line hline => ?_
  have htexts : line ∈ ["\x7d", ""] := by
    simp only [closing, List.map_append, List.map_cons, List.map_nil, hbrace, hplain] at hline
    cases he : settings.enclosing <;> simpa [he, hplain] using hline
  rcases List.mem_cons.mp htexts with rfl | hempty
  · exact namesOn_closeBrace
  · exact List.mem_singleton.mp hempty ▸ namesOn_empty

end Module

inductive Named (schema : Schema) (settings : Settings) : String → Prop where
  | className : Named schema settings settings.className
  | segment {path name : String} (henclosing : settings.enclosing = some path) (hname : name ∈ parts '.' path) :
      Named schema settings name
  | accessor (t : ValueType) : Named schema settings (settings.accessorName t)
  | assetClass : Named schema settings schema.className
  | holder : Named schema settings schema.holder
  | group {p : Group × Binding} (hp : p ∈ schema.placed) : Named schema settings p.1.identifier
  | binding {p : Group × Binding} (hp : p ∈ schema.placed) : Named schema settings p.2.identifier

section Generated

variable {schema : Schema} {settings : Settings} {name : String}

theorem mem_namesIn_bodies (h : schema.Valid) (hs : settings.Usable) :
    name ∈ namesIn (Tag.all.flatMap fun tag => contents (rendering schema settings tag) ++ [""]) ↔
      (∃ t, name = settings.accessorName t) ∨ name = schema.holder ∨
        ∃ p ∈ schema.placed, name ∈ schema.accessPath p := by
  have htag (tag : Tag) : name ∈ namesIn (contents (rendering schema settings tag) ++ [""]) ↔
      name = settings.accessorName tag.valueType ∨ name = schema.holder ∨
        name ∈ namesIn (contents (choiceLines schema tag)) := by
    rw [mem_namesIn_append, mem_namesIn_cons, namesOn_empty, mem_namesIn_rendering h hs]
    simp only [namesIn_nil, List.not_mem_nil, or_false]
  rw [mem_namesIn_flatMap, ← exists_mem_namesIn_choiceLines h]
  constructor
  · rintro ⟨tag, -, hname⟩
    rcases (htag tag).mp hname with haccessor | hholder | hchoice
    · exact .inl ⟨tag.valueType, haccessor⟩
    · exact .inr (.inl hholder)
    · exact .inr (.inr ⟨tag, hchoice⟩)
  · rintro (⟨t, haccessor⟩ | hholder | ⟨tag, hchoice⟩)
    · exact ⟨⟨t, true⟩, Tag.mem_all _, (htag _).mpr (.inl haccessor)⟩
    · exact ⟨⟨.vector2, true⟩, Tag.mem_all _, (htag _).mpr (.inr (.inl hholder))⟩
    · exact ⟨tag, tag.mem_all, (htag tag).mpr (.inr (.inr hchoice))⟩

theorem mem_namesIn_source_iff (h : schema.Valid) (hs : settings.Usable) :
    name ∈ namesIn (linesOf settings.lineEnding (Generation.moduleFor schema settings).source) ↔
      Named schema settings name := by
  rw [Module.linesOf_source schema hs, mem_namesIn_append, Module.mem_namesIn_frontTexts hs, mem_namesIn_cons,
    namesOn_fieldText h, mem_namesIn_cons, namesOn_empty, mem_namesIn_append, Module.namesIn_closing]
  constructor
  · rintro ((rfl | ⟨path, henclosing, hpath⟩) | hfield | hnone | hbodies | hnone)
    · exact .className
    · exact .segment henclosing hpath
    · rcases List.mem_cons.mp hfield with rfl | hholder
      · exact .assetClass
      · exact List.mem_singleton.mp hholder ▸ .holder
    · cases hnone
    · rcases (mem_namesIn_bodies h hs).mp hbodies with ⟨t, rfl⟩ | rfl | ⟨p, hp, hpath⟩
      · exact .accessor t
      · exact .holder
      · simp only [Schema.accessPath, List.mem_cons, List.not_mem_nil, or_false] at hpath
        rcases hpath with rfl | rfl | rfl
        · exact .holder
        · exact .group hp
        · exact .binding hp
    · cases hnone
  · have hbody (hname : (∃ t, name = settings.accessorName t) ∨ name = schema.holder ∨
        ∃ p ∈ schema.placed, name ∈ schema.accessPath p) := (mem_namesIn_bodies h hs).mpr hname
    intro hnamed
    cases hnamed with
    | className => exact .inl (.inl rfl)
    | segment henclosing hpath => exact .inl (.inr ⟨_, henclosing, hpath⟩)
    | accessor t => exact .inr (.inr (.inr (.inl (hbody (.inl ⟨t, rfl⟩)))))
    | assetClass => exact .inr (.inl (List.mem_cons_self ..))
    | holder => exact .inr (.inl (List.mem_cons_of_mem _ (List.mem_singleton_self _)))
    | group hp => exact .inr (.inr (.inr (.inl (hbody (.inr (.inr ⟨_, hp, by simp [Schema.accessPath]⟩))))))
    | binding hp => exact .inr (.inr (.inr (.inl (hbody (.inr (.inr ⟨_, hp, by simp [Schema.accessPath]⟩))))))

end Generated

/-! ### Reserved words -/

def reserved : List String :=
  ["abstract", "as", "base", "bool", "break", "byte", "case", "catch", "char", "checked", "class", "const",
    "continue", "decimal", "default", "delegate", "do", "double", "else", "enum", "event", "explicit", "extern",
    "false", "finally", "fixed", "float", "for", "foreach", "goto", "if", "implicit", "in", "int", "interface",
    "internal", "is", "lock", "long", "namespace", "new", "null", "object", "operator", "out", "override",
    "params", "private", "protected", "public", "readonly", "ref", "return", "sbyte", "sealed", "short", "sizeof",
    "stackalloc", "static", "string", "struct", "switch", "this", "throw", "true", "try", "typeof", "uint",
    "ulong", "unchecked", "unsafe", "ushort", "using", "virtual", "void", "volatile", "while"]

theorem lowercase_of_mem_reserved {word : String} (h : word ∈ reserved) : Name.lowercase word = word := by
  have hall : reserved.all (fun word => lower word.toList == word.toList) = true := by decide +kernel
  have hsame := eq_of_beq (List.all_eq_true.mp hall word h)
  rw [Name.lowercase, hsame, String.ofList_toList]

/-- No name is reserved; that of the asset class cannot be if that of the field is not. -/
structure Unreserved (schema : Schema) (settings : Settings) : Prop where
  className : settings.className ∉ reserved
  segments : ∀ path, settings.enclosing = some path → ∀ name ∈ parts '.' path, name ∉ reserved
  accessors : ∀ t, settings.accessorName t ∉ reserved
  holder : schema.holder ∉ reserved
  members : ∀ p ∈ schema.placed, p.1.identifier ∉ reserved ∧ p.2.identifier ∉ reserved

theorem unreserved_iff {schema : Schema} {settings : Settings} :
    Unreserved schema settings ↔ ∀ name, Named schema settings name → name ∉ reserved := by
  constructor
  · intro h name hnamed
    cases hnamed with
    | className => exact h.className
    | segment henclosing hname => exact h.segments _ henclosing name hname
    | accessor t => exact h.accessors t
    | assetClass =>
      intro hclass
      have hsame : schema.holder = schema.className := lowercase_of_mem_reserved hclass
      exact h.holder (hsame ▸ hclass)
    | holder => exact h.holder
    | group hp => exact (h.members _ hp).1
    | binding hp => exact (h.members _ hp).2
  · intro h
    exact ⟨h _ .className, fun path henclosing name hname => h name (.segment henclosing hname),
      fun t => h _ (.accessor t), h _ .holder, fun p hp => ⟨h _ (.group hp), h _ (.binding hp)⟩⟩

theorem unreserved_generated_iff {schema : Schema} {settings : Settings} {m : Module}
    (h : (Generation.generate schema settings).result = .ok m) (hv : settings.validates = true) :
    (∀ name ∈ namesIn (linesOf settings.lineEnding m.source), name ∉ reserved) ↔
      Unreserved schema settings := by
  obtain ⟨hadmits, rfl⟩ := Generation.generate_eq_ok_iff.mp h
  have hs := Settings.problem?_eq_none_iff.mp hadmits.usable
  have hvalid := Schema.problem?_eq_none_iff.mp (hadmits.accepted hv)
  rw [unreserved_iff]
  exact forall_congr' fun name => imp_congr_left (mem_namesIn_source_iff hvalid hs)

def capitalSchema : Schema := ⟨"My Class", [⟨"Default", [⟨"Switch", .boolean⟩, ⟨"Return", .vector2⟩]⟩]⟩

def capitalSettings : Settings := { Settings.default with className := "Class", enclosing := some "Game.Static" }

theorem unreserved_capital : Unreserved capitalSchema capitalSettings where
  className := by decide
  segments path henclosing := by
    obtain rfl := Option.some.inj henclosing
    decide
  accessors t := by cases t <;> decide
  holder := by decide
  members := by decide

theorem unreserved_generated_capital :
    (Generation.generate capitalSchema capitalSettings).result =
        .ok (Generation.moduleFor capitalSchema capitalSettings) ∧
      capitalSettings.validates = true ∧
      ∀ name ∈ namesIn (linesOf .lf (Generation.moduleFor capitalSchema capitalSettings).source),
        name ∉ reserved := by
  have hadmits : Generation.Admits capitalSchema capitalSettings :=
    ⟨by decide, by decide, fun _ => by decide, nofun⟩
  have hok := Generation.generate_eq_ok_iff.mpr ⟨hadmits, rfl⟩
  exact ⟨hok, rfl, (unreserved_generated_iff hok rfl).mpr unreserved_capital⟩

def eventSchema : Schema := ⟨"Event", []⟩

def likeKeyword : Settings := { Settings.default with className := "class" }

theorem not_unreserved_event :
    (Generation.generate eventSchema likeKeyword).result =
        .ok (Generation.moduleFor eventSchema likeKeyword) ∧
      likeKeyword.validates = true ∧
      ∀ name ∈ ["class", "event"],
        name ∈ namesIn (linesOf .lf (Generation.moduleFor eventSchema likeKeyword).source) ∧
          name ∈ reserved := by
  have hadmits : Generation.Admits eventSchema likeKeyword :=
    ⟨by decide, by decide, fun _ => by decide, nofun⟩
  have hs := Settings.problem?_eq_none_iff.mp hadmits.usable
  have hvalid := Schema.problem?_eq_none_iff.mp (hadmits.accepted rfl)
  have hholder : eventSchema.holder = "event" := by decide
  refine ⟨Generation.generate_eq_ok_iff.mpr ⟨hadmits, rfl⟩, rfl, ?_⟩
  simp only [List.forall_mem_cons]
  refine ⟨⟨(mem_namesIn_source_iff hvalid hs).mpr .className, by decide⟩,
    ⟨(mem_namesIn_source_iff hvalid hs).mpr ?_, by decide⟩, List.forall_mem_nil _⟩
  exact hholder ▸ .holder

end ActionLookup
