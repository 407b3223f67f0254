import ActionLookup.Proofs.Accessor.Execution

namespace ActionLookup

open Text

namespace Accessor

def initial (line : String) : Option Char := line.toList.head?

theorem ne_of_initial {a b : String} (h : initial a ≠ initial b) : a ≠ b := fun e => h (e ▸ rfl)

theorem initial_append {a : String} {c : Char} (h : initial a = some c) (b : String) :
    initial (a ++ b) = some c := by
  unfold initial at h ⊢
  rw [String.toList_append, List.head?_append, h, Option.some_or]

theorem initial_label (name : String) : initial (label name) = some 'c' := by
  have hcase : initial "case " = some 'c' := by simp [initial]
  exact initial_append (initial_append hcase (quote name)) ":"

theorem initial_returnLive (t : ValueType) (target : String) :
    initial (returnLive t target) = some 'r' := by
  cases t with
  | vector2 =>
      have hreturn : initial "return " = some 'r' := by simp [initial]
      rw [returnLive_vector2]
      exact initial_append (initial_append hreturn _) _
  | boolean =>
      have hreturn : initial "return held ? " = some 'r' := by simp [initial]
      rw [returnLive_boolean]
      exact initial_append (initial_append (initial_append (initial_append hreturn _) _) _) _

theorem initial_openBrace : initial openBrace = some '\x7b' := by simp [initial, openBrace]

theorem initial_closeBrace : initial closeBrace = some '\x7d' := by simp [initial, closeBrace]

theorem initial_signature (settings : Settings) (tag : Tag) :
    initial (signature settings tag) = some 'p' := by
  have hv : initial "public static Vector2 " = some 'p' := by simp [initial]
  have hb : initial "public static bool " = some 'p' := by simp [initial]
  obtain ⟨t, q⟩ := tag
  cases t <;> cases q
  · exact initial_append (initial_append hv settings.vectorFunction) _
  · exact initial_append (initial_append hv settings.vectorFunction) _
  · exact initial_append (initial_append hb settings.buttonFunction) _
  · exact initial_append (initial_append hb settings.buttonFunction) _

theorem initial_returnRest (t : ValueType) : initial (returnRest t) = some 'r' := by
  cases t with
  | vector2 => change initial "return new Vector2(0f, 0f);" = _; simp [initial]
  | boolean => change initial "return false;" = _; simp [initial]

theorem label_injective {a b : String} (h : label a = label b) : a = b := by
  have hchars := congrArg String.toList h
  simp only [label_eq, String.toList_append, List.append_cancel_left_eq,
    List.append_cancel_right_eq] at hchars
  exact quote_injective (String.toList_inj.mp hchars)

theorem command?_switch_action : command? "switch(actionName)" = some (.choose "actionName") := by
  simp [command?, chosen?, startsWith, endsWith]

theorem command?_switch_map : command? "switch(mapName)" = some (.choose "mapName") := by
  simp [command?, chosen?, startsWith, endsWith]

theorem command?_empty : command? "" = some .pass := by
  simp [command?, chosen?, startsWith]

theorem command?_break : command? "break;" = some .leave := by
  simp [command?, chosen?, startsWith]

theorem command?_statement {line : String} (hlast : line.toList.getLast? = some ';')
    (hparen : '(' ∈ line.toList) :
    command? line = if startsWith "return " line then some .finish else some .act := by
  have hchosen : chosen? line = none := by simp [chosen?, endsWith, hlast]
  have hempty : line ≠ "" := by rintro rfl; simp at hparen
  -- A parenthesis tells a statement from a `break`, which ends in the same character.
  have hbreak : line ≠ "break;" := by rintro rfl; simp at hparen
  simp [command?, hchosen, hempty, hbreak, endsWith, hlast]

theorem getLast?_append_of_some {a b : String} {c : Char} (h : b.toList.getLast? = some c) :
    (a ++ b).toList.getLast? = some c := by
  rw [String.toList_append, List.getLast?_append, h]
  rfl

theorem command?_returnLive (t : ValueType) (target : String) :
    command? (returnLive t target) = some .finish := by
  cases t with
  | vector2 =>
      rw [returnLive_vector2, command?_statement (getLast?_append_of_some (by simp)) (by simp),
        if_pos (by simp [startsWith])]
  | boolean =>
      rw [returnLive_boolean, command?_statement (getLast?_append_of_some (by simp)) (by simp),
        if_pos (by simp [startsWith])]

theorem command?_returnRest (t : ValueType) : command? (returnRest t) = some .finish := by
  cases t with
  | vector2 =>
      change command? "return new Vector2(0f, 0f);" = _
      simp [command?, chosen?, startsWith, endsWith]
  | boolean =>
      change command? "return false;" = _
      simp [command?, chosen?, startsWith, endsWith]

theorem toList_of_startsWith {start line : String} (h : startsWith start line = true) :
    ∃ more, line.toList = start.toList ++ more := by
  obtain ⟨more, hmore⟩ := List.isPrefixOf_iff_prefix.mp h
  exact ⟨more, hmore.symm⟩

theorem command?_act {line : String} (hlast : line.toList.getLast? = some ';')
    (hparen : '(' ∈ line.toList) (hblank : Avoids [' '] line) : command? line = some .act := by
  rw [command?_statement hlast hparen, if_neg]
  intro hstart
  obtain ⟨more, hmore⟩ := toList_of_startsWith hstart
  exact hblank ' ' (by rw [hmore]; simp) (by simp)

theorem command?_call (schema : Schema) (call : String) (hlast : call.toList.getLast? = some ';')
    (hparen : '(' ∈ call.toList) (hblank : Avoids [' '] call) :
    command? (schema.holder ++ call) = some .act := by
  have hholder : Avoids [' '] schema.holder := Avoids.mono (by decide) (avoids_blanks_holder schema)
  refine command?_act (getLast?_append_of_some hlast) ?_ (Avoids.append_iff.mpr ⟨hholder, hblank⟩)
  rw [String.toList_append]
  exact List.mem_append_right _ hparen

theorem command?_enable (schema : Schema) : command? s!"{schema.holder}.Enable();" = some .act :=
  command?_call schema ".Enable();" (by simp) (by simp) (by simp [Avoids])

theorem command?_disable (schema : Schema) : command? s!"{schema.holder}.Disable();" = some .act :=
  command?_call schema ".Disable();" (by simp) (by simp) (by simp [Avoids])

section Behind

variable {wanted : String} {depth : Nat} {rest : List String}

theorem behind_other {line : String} (ho : line ≠ openBrace) (hc : line ≠ closeBrace)
    (hw : depth = 0 → line ≠ wanted) : behind wanted depth (line :: rest) = behind wanted depth rest := by
  have hnot : ¬(depth = 0 ∧ line = wanted) := fun e => hw e.1 e.2
  simp only [behind, if_neg hnot, if_neg ho, if_neg hc]

theorem behind_append {lines : List String}
    (h : ∀ line ∈ lines, line ≠ openBrace ∧ line ≠ closeBrace ∧ (depth = 0 → line ≠ wanted)) :
    behind wanted depth (lines ++ rest) = behind wanted depth rest := by
  induction lines with
  | nil => rfl
  | cons line lines ih =>
      obtain ⟨ho, hc, hw⟩ := h line (List.mem_cons_self ..)
      rw [List.cons_append, behind_other ho hc hw]
      exact ih fun l hl => h l (List.mem_cons_of_mem _ hl)

theorem behind_openBrace (h : wanted ≠ openBrace) :
    behind wanted depth (openBrace :: rest) = behind wanted (depth + 1) rest := by
  have hnot : ¬(depth = 0 ∧ openBrace = wanted) := fun e => h e.2.symm
  simp only [behind, if_neg hnot, if_true]

theorem behind_closeBrace : behind wanted (depth + 1) (closeBrace :: rest) = behind wanted depth rest := by
  have hne : closeBrace ≠ openBrace := by decide
  rw [behind, if_neg fun e => Nat.succ_ne_zero _ e.1, if_neg hne, if_pos rfl]

theorem behind_wanted : behind wanted 0 (wanted :: rest) = some rest := by
  rw [behind, if_pos ⟨rfl, rfl⟩]

theorem behind_end (h : wanted ≠ closeBrace) : behind wanted 0 (closeBrace :: rest) = none := by
  have hne : closeBrace ≠ openBrace := by decide
  rw [behind, if_neg fun e => h e.2.symm, if_neg hne, if_pos rfl]

end Behind

def armTexts (holder : String) (p : Group × Binding) : List String :=
  [label p.2.name, returnLive p.2.valueType (target holder p.1 p.2)]

def sectionTexts (holder : String) (t : ValueType) (g : Group) : List String :=
  [label g.name, "switch(actionName)", openBrace]
    ++ (g.ofType t).flatMap (fun b => armTexts holder (g, b))
    ++ ["default:", "break;", closeBrace, "break;"]

theorem content_armLines (level : Nat) (holder : String) (p : Group × Binding) :
    (armLines level holder p).map Line.content = armTexts holder p := rfl

theorem content_sectionLines (holder : String) (t : ValueType) (g : Group) :
    (sectionLines holder t g).map Line.content = sectionTexts holder t g := by
  simp only [sectionLines, sectionTexts, List.map_append, List.map_flatMap, content_armLines,
    List.append_assoc]
  rfl

theorem sectionTexts_append (holder : String) (t : ValueType) (g : Group) (rest : List String) :
    sectionTexts holder t g ++ rest =
      label g.name :: "switch(actionName)" :: openBrace ::
        (((g.ofType t).map fun b => (g, b)).flatMap (armTexts holder) ++
          "default:" :: "break;" :: closeBrace :: "break;" :: rest) := by
  simp [sectionTexts, List.flatMap_map]

/-- A label or a closing brace: no line of a section but its first is one. -/
structure Sought (wanted : String) : Prop where
  notReturn : initial wanted ≠ some 'r'
  notSwitch : initial wanted ≠ some 's'
  notBreak : initial wanted ≠ some 'b'
  notOpenBrace : initial wanted ≠ some '\x7b'

theorem sought_label (name : String) : Sought (label name) := by
  constructor <;> rw [initial_label] <;> decide

theorem sought_default : Sought "default:" := by
  constructor <;> simp [initial]

theorem sought_closeBrace : Sought closeBrace := by
  constructor <;> rw [initial_closeBrace] <;> decide

section Sections

variable {wanted : String} {depth : Nat} {rest : List String} {holder : String}

theorem label_ne_openBrace (name : String) : label name ≠ openBrace :=
  ne_of_initial (by rw [initial_label, initial_openBrace]; decide)

theorem label_ne_closeBrace (name : String) : label name ≠ closeBrace :=
  ne_of_initial (by rw [initial_label, initial_closeBrace]; decide)

theorem behind_arms {ps : List (Group × Binding)} (h : Sought wanted)
    (hw : depth = 0 → ∀ p ∈ ps, label p.2.name ≠ wanted) :
    behind wanted depth (ps.flatMap (armTexts holder) ++ rest) = behind wanted depth rest := by
  refine behind_append fun line hline => ?_
  obtain ⟨p, hp, hline⟩ := List.mem_flatMap.mp hline
  rcases List.mem_cons.mp hline with rfl | hline
  · exact ⟨label_ne_openBrace _, label_ne_closeBrace _, fun hd => hw hd p hp⟩
  · rw [List.mem_singleton.mp hline]
    refine ⟨ne_of_initial ?_, ne_of_initial ?_, fun _ => ne_of_initial ?_⟩
    · rw [initial_returnLive, initial_openBrace]; decide
    · rw [initial_returnLive, initial_closeBrace]; decide
    · rw [initial_returnLive]; exact h.notReturn.symm

theorem behind_break (h : Sought wanted) :
    behind wanted depth ("break;" :: rest) = behind wanted depth rest :=
  behind_other (by decide) (by decide) fun _ => ne_of_initial (by simpa [initial] using h.notBreak.symm)

theorem behind_switch (h : Sought wanted) :
    behind wanted depth ("switch(actionName)" :: rest) = behind wanted depth rest :=
  behind_other (by decide) (by decide) fun _ => ne_of_initial (by simpa [initial] using h.notSwitch.symm)

theorem behind_default (hw : depth = 0 → "default:" ≠ wanted) :
    behind wanted depth ("default:" :: rest) = behind wanted depth rest :=
  behind_other (by decide) (by decide) hw

theorem behind_section {t : ValueType} {g : Group} (h : Sought wanted)
    (hw : depth = 0 → label g.name ≠ wanted) :
    behind wanted depth (sectionTexts holder t g ++ rest) = behind wanted depth rest := by
  have hopen : wanted ≠ Accessor.openBrace :=
    ne_of_initial (by rw [initial_openBrace]; exact h.notOpenBrace)
  rw [sectionTexts_append, behind_other (label_ne_openBrace _) (label_ne_closeBrace _) hw,
    behind_switch h, behind_openBrace hopen, behind_arms h fun e => absurd e (Nat.succ_ne_zero _),
    behind_default fun e => absurd e (Nat.succ_ne_zero _), behind_break h, behind_closeBrace,
    behind_break h]

theorem behind_sections {t : ValueType} {gs : List Group} (h : Sought wanted)
    (hw : depth = 0 → ∀ g ∈ gs, label g.name ≠ wanted) :
    behind wanted depth (gs.flatMap (sectionTexts holder t) ++ rest) = behind wanted depth rest := by
  induction gs with
  | nil => rfl
  | cons g gs ih =>
      rw [List.flatMap_cons, List.append_assoc,
        behind_section h fun hd => hw hd g (List.mem_cons_self ..)]
      exact ih fun hd k hk => hw hd k (List.mem_cons_of_mem _ hk)

end Sections

section Choice

variable {arguments : String → Option String} {parameter key line : String} {rest : List String}
  {holder : String}

theorem default_ne_label (name : String) : "default:" ≠ label name :=
  ne_of_initial (by rw [initial_label]; simp [initial])

theorem choice?_of_behind {block inside : List String} (h : behind (label key) 0 block = some inside) :
    choice? key block = some inside := by
  rw [choice?, h, Option.some_or]

theorem run_default {inner : List String} (h : command? line = some (.choose parameter))
    (hk : arguments parameter = some key)
    (hlabel : ∀ rest, behind (label key) 0 (inner ++ rest) = behind (label key) 0 rest)
    (hdefault : ∀ rest, behind "default:" 0 (inner ++ rest) = behind "default:" 0 rest) :
    run arguments (line :: openBrace :: (inner ++ "default:" :: "break;" :: closeBrace :: rest)) =
      run arguments rest := by
  have hchoice : choice? key (inner ++ "default:" :: "break;" :: closeBrace :: rest) =
      some ("break;" :: closeBrace :: rest) := by
    rw [choice?, hlabel, behind_default fun _ => default_ne_label key, behind_break (sought_label key),
      behind_end (label_ne_closeBrace key), Option.none_or, hdefault, behind_wanted]
  rw [run_choose h hk hchoice, run_leave command?_break behind_wanted]

theorem behind_label_arms (holder : String) {ps : List (Group × Binding)} {p : Group × Binding}
    (h : (ps.find? fun p => p.2.name = key) = some p) (rest : List String) :
    ∃ after, behind (label key) 0 (ps.flatMap (armTexts holder) ++ rest) =
      some (returnLive p.2.valueType (target holder p.1 p.2) :: after) := by
  obtain ⟨hp, before, after, rfl, hbefore⟩ := List.find?_eq_some_iff_append.mp h
  have hname : p.2.name = key := by simpa using hp
  have hne : ∀ q ∈ before, label q.2.name ≠ label key := fun q hq e =>
    absurd (label_injective e) (by simpa using hbefore q hq)
  refine ⟨after.flatMap (armTexts holder) ++ rest, ?_⟩
  rw [List.flatMap_append, List.append_assoc, behind_arms (sought_label key) fun _ => hne,
    List.flatMap_cons, armTexts, hname]
  simp only [List.cons_append, behind_wanted, List.nil_append]

theorem behind_label_sections (holder : String) {t : ValueType} {gs : List Group} {g : Group}
    (h : (gs.find? fun g => g.name = key) = some g) (rest : List String) :
    ∃ after : List Group, behind (label key) 0 (gs.flatMap (sectionTexts holder t) ++ rest) =
      some ("switch(actionName)" :: openBrace ::
        (((g.ofType t).map fun b => (g, b)).flatMap (armTexts holder) ++
          "default:" :: "break;" :: closeBrace :: "break;" ::
            (after.flatMap (sectionTexts holder t) ++ rest))) := by
  obtain ⟨hg, before, after, rfl, hbefore⟩ := List.find?_eq_some_iff_append.mp h
  have hname : g.name = key := by simpa using hg
  have hne : ∀ k ∈ before, label k.name ≠ label key := fun k hk e =>
    absurd (label_injective e) (by simpa using hbefore k hk)
  refine ⟨after, ?_⟩
  rw [List.flatMap_append, List.append_assoc, behind_sections (sought_label key) fun _ => hne,
    List.flatMap_cons, List.append_assoc, sectionTexts_append, hname, behind_wanted]

theorem run_arms (h : command? line = some (.choose parameter)) (hk : arguments parameter = some key)
    (ps : List (Group × Binding)) :
    run arguments (line :: openBrace ::
        (ps.flatMap (armTexts holder) ++ "default:" :: "break;" :: closeBrace :: rest)) =
      match ps.find? fun p => p.2.name = key with
      | some p => some [returnLive p.2.valueType (target holder p.1 p.2)]
      | none => run arguments rest := by
  cases hf : ps.find? fun p => p.2.name = key with
  | none =>
      have hne : ∀ p ∈ ps, label p.2.name ≠ label key := fun p hp e =>
        List.find?_eq_none.mp hf p hp (by simpa using label_injective e)
      exact run_default h hk (fun _ => behind_arms (sought_label key) fun _ => hne)
        fun _ => behind_arms sought_default fun _ p _ => (default_ne_label _).symm
  | some p =>
      obtain ⟨after, hbehind⟩ := behind_label_arms holder hf
        ("default:" :: "break;" :: closeBrace :: rest)
      rw [run_choose h hk (choice?_of_behind hbehind), run_finish (command?_returnLive _ _)]

theorem run_sections (h : command? line = some (.choose parameter)) (hk : arguments parameter = some key)
    {name : String} (hn : arguments "actionName" = some name) (t : ValueType) (gs : List Group) :
    run arguments (line :: openBrace ::
        (gs.flatMap (sectionTexts holder t) ++ "default:" :: "break;" :: closeBrace :: rest)) =
      match (gs.find? fun g => g.name = key).bind fun g =>
        (((g.ofType t).map fun b => (g, b)).find? fun p => p.2.name = name) with
      | some p => some [returnLive p.2.valueType (target holder p.1 p.2)]
      | none => run arguments rest := by
  cases hf : gs.find? fun g => g.name = key with
  | none =>
      have hne : ∀ g ∈ gs, label g.name ≠ label key := fun g hg e =>
        List.find?_eq_none.mp hf g hg (by simpa using label_injective e)
      exact run_default h hk (fun _ => behind_sections (sought_label key) fun _ => hne)
        fun _ => behind_sections sought_default fun _ g _ => (default_ne_label _).symm
  | some g =>
      obtain ⟨after, hbehind⟩ := behind_label_sections holder (t := t) hf
        ("default:" :: "break;" :: closeBrace :: rest)
      -- Out of the inner block, `break` leads past the sections that follow.
      have hleave : run arguments ("break;" :: (after.flatMap (sectionTexts holder t) ++
          "default:" :: "break;" :: closeBrace :: rest)) = run arguments rest := by
        refine run_leave command?_break ?_
        rw [behind_sections sought_closeBrace fun _ k _ => label_ne_closeBrace _,
          behind_default fun _ => by decide, behind_break sought_closeBrace, behind_wanted]
      rw [run_choose h hk (choice?_of_behind hbehind), run_arms command?_switch_action hn, hleave]
      rfl

end Choice

theorem content_rendering (schema : Schema) (settings : Settings) (tag : Tag) :
    (rendering schema settings tag).map Line.content ++ [""] =
      signature settings tag :: openBrace :: s!"{schema.holder}.Enable();" :: "" ::
        (if tag.qualified then "switch(mapName)" else "switch(actionName)") :: openBrace ::
          ((choiceLines schema tag).map Line.content ++ "default:" :: "break;" :: closeBrace ::
            [s!"{schema.holder}.Disable();", returnRest tag.valueType, closeBrace, ""]) := by
  simp [rendering, defaultLines, Line.content]

theorem content_choiceLines_qualified (schema : Schema) (t : ValueType) :
    (choiceLines schema ⟨t, true⟩).map Line.content =
      schema.groups.flatMap (sectionTexts schema.holder t) := by
  simp only [choiceLines, List.map_flatMap, content_sectionLines]

theorem content_choiceLines_unqualified (schema : Schema) (t : ValueType) :
    (choiceLines schema ⟨t, false⟩).map Line.content =
      (schema.reachable t).flatMap (armTexts schema.holder) := by
  simp only [choiceLines, List.map_flatMap, content_armLines]

theorem run_rest {arguments : String → Option String} (schema : Schema) (t : ValueType) (rest : List String) :
    run arguments (s!"{schema.holder}.Disable();" :: returnRest t :: rest) =
      some [s!"{schema.holder}.Disable();", returnRest t] := by
  rw [run_act (command?_disable schema), run_finish (command?_returnRest t)]
  rfl

theorem call_rendering {arguments : String → Option String} (schema : Schema) (settings : Settings)
    (tag : Tag) :
    call arguments ((rendering schema settings tag).map Line.content ++ [""]) =
      (run arguments ((if tag.qualified then "switch(mapName)" else "switch(actionName)") :: openBrace ::
        ((choiceLines schema tag).map Line.content ++ "default:" :: "break;" :: closeBrace ::
          [s!"{schema.holder}.Disable();", returnRest tag.valueType, closeBrace, ""]))).map
            (s!"{schema.holder}.Enable();" :: ·) := by
  rw [content_rendering, call, if_pos rfl, run_act (command?_enable schema), run_pass command?_empty]

theorem call_qualified (schema : Schema) (settings : Settings) (t : ValueType) (group name : String) :
    call (argumentsOf name (some group)) ((rendering schema settings ⟨t, true⟩).map Line.content ++ [""]) =
      some (s!"{schema.holder}.Enable();" ::
        match (schema.groups.find? fun g => g.name = group).bind fun g =>
          (((g.ofType t).map fun b => (g, b)).find? fun p => p.2.name = name) with
        | some p => [returnLive p.2.valueType (target schema.holder p.1 p.2)]
        | none => [s!"{schema.holder}.Disable();", returnRest t]) := by
  rw [call_rendering, content_choiceLines_qualified]
  have hmap : argumentsOf name (some group) "mapName" = some group := rfl
  have haction : argumentsOf name (some group) "actionName" = some name := rfl
  simp only [if_true, run_sections command?_switch_map hmap haction]
  split
  · rfl
  · rw [run_rest]
    rfl

theorem call_unqualified (schema : Schema) (settings : Settings) (t : ValueType) (name : String) :
    call (argumentsOf name none) ((rendering schema settings ⟨t, false⟩).map Line.content ++ [""]) =
      some (s!"{schema.holder}.Enable();" ::
        match (schema.placedOf t).find? fun p => p.2.name = name with
        | some p => [returnLive p.2.valueType (target schema.holder p.1 p.2)]
        | none => [s!"{schema.holder}.Disable();", returnRest t]) := by
  rw [call_rendering, content_choiceLines_unqualified]
  have haction : argumentsOf name none "actionName" = some name := rfl
  have hfind : ((schema.reachable t).find? fun p => p.2.name = name) =
      (schema.placedOf t).find? fun p => p.2.name = name :=
    find?_firstOfName (by simp) _
  simp only [Bool.false_eq_true, if_false, run_arms command?_switch_action haction, hfind]
  split
  · rfl
  · rw [run_rest]
    rfl

end Accessor

namespace Schema

def inGroup? (s : Schema) (t : ValueType) (group name : String) : Option Binding :=
  (s.groups.find? fun g => g.name = group).bind fun g =>
    g.bindings.find? fun b => b.valueType = t ∧ b.name = name

def anywhere? (s : Schema) (t : ValueType) (name : String) : Option (Group × Binding) :=
  s.placed.find? fun p => p.2.valueType = t ∧ p.2.name = name

theorem find?_ofType (g : Group) (t : ValueType) (name : String) :
    (((g.ofType t).map fun b => (g, b)).find? fun p => p.2.name = name) =
      (g.bindings.find? fun b => b.valueType = t ∧ b.name = name).map fun b => (g, b) := by
  simp [Group.ofType, List.find?_map, List.find?_filter]

theorem find?_placedOf (s : Schema) (t : ValueType) (name : String) :
    ((s.placedOf t).find? fun p => p.2.name = name) = s.anywhere? t name := by
  simp [placedOf, anywhere?, List.find?_filter]

end Schema

namespace Accessor

theorem call_qualified_eq (schema : Schema) (settings : Settings) (t : ValueType) (group name : String) :
    call (argumentsOf name (some group)) ((rendering schema settings ⟨t, true⟩).map Line.content ++ [""]) =
      some (s!"{schema.holder}.Enable();" ::
        match schema.inGroup? t group name with
        | some _ => [returnLive t s!"{schema.holder}.{Name.strip group}.{Name.strip name}"]
        | none => [s!"{schema.holder}.Disable();", returnRest t]) := by
  rw [call_qualified, Schema.inGroup?]
  cases hg : schema.groups.find? fun g => g.name = group with
  | none => rfl
  | some g =>
      have hgroup : g.name = group := by simpa using List.find?_some hg
      simp only [Option.bind_some, Schema.find?_ofType]
      cases hb : g.bindings.find? fun b => b.valueType = t ∧ b.name = name with
      | none => rfl
      | some b =>
          have hbinding : b.valueType = t ∧ b.name = name := by simpa using List.find?_some hb
          simp only [Option.map_some, target, Group.identifier, Binding.identifier, hgroup, hbinding.1,
            hbinding.2]

theorem call_unqualified_eq (schema : Schema) (settings : Settings) (t : ValueType) (name : String) :
    call (argumentsOf name none) ((rendering schema settings ⟨t, false⟩).map Line.content ++ [""]) =
      some (s!"{schema.holder}.Enable();" ::
        match schema.anywhere? t name with
        | some (g, _) => [returnLive t s!"{schema.holder}.{Name.strip g.name}.{Name.strip name}"]
        | none => [s!"{schema.holder}.Disable();", returnRest t]) := by
  rw [call_unqualified, Schema.find?_placedOf]
  cases hp : schema.anywhere? t name with
  | none => rfl
  | some p =>
      have hbinding : p.2.valueType = t ∧ p.2.name = name := by simpa using List.find?_some hp
      simp only [target, Group.identifier, Binding.identifier, hbinding.1, hbinding.2]

theorem call_generated {schema : Schema} {settings : Settings} {m : Module}
    (h : (Generation.generate schema settings).result = .ok m) (t : ValueType) (group name : String) :
    call (argumentsOf name (some group)) (linesOf settings.lineEnding (m.bodies.get ⟨t, true⟩)) =
        some (s!"{schema.holder}.Enable();" ::
          match schema.inGroup? t group name with
          | some _ => [returnLive t s!"{schema.holder}.{Name.strip group}.{Name.strip name}"]
          | none => [s!"{schema.holder}.Disable();", returnRest t]) ∧
      call (argumentsOf name none) (linesOf settings.lineEnding (m.bodies.get ⟨t, false⟩)) =
        some (s!"{schema.holder}.Enable();" ::
          match schema.anywhere? t name with
          | some (g, _) => [returnLive t s!"{schema.holder}.{Name.strip g.name}.{Name.strip name}"]
          | none => [s!"{schema.holder}.Disable();", returnRest t]) := by
  obtain ⟨hadmits, rfl⟩ := Generation.generate_eq_ok_iff.mp h
  have husable := Settings.problem?_eq_none_iff.mp hadmits.usable
  simp only [Generation.moduleFor, linesOf_body schema husable]
  exact ⟨call_qualified_eq schema settings t group name, call_unqualified_eq schema settings t name⟩

def oddSchema : Schema :=
  ⟨"Player Controls", [⟨"Say \"G\"", [⟨"default:", .boolean⟩, ⟨"Move", .vector2⟩]⟩,
    ⟨"Say \"G\"", [⟨"Fire", .boolean⟩, ⟨"default:", .boolean⟩]⟩]⟩

def oddSettings : Settings := { Settings.default with lineEnding := .crlf, validates := false }

theorem admits_odd : Generation.Admits oddSchema oddSettings where
  usable := by decide
  apart := by decide
  accepted := by decide
  unshadowed := by decide

theorem call_generated_odd :
    (Generation.generate oddSchema oddSettings).result = .ok (Generation.moduleFor oddSchema oddSettings) ∧
      call (argumentsOf "default:" (some "Say \"G\""))
          (linesOf .crlf ((Generation.moduleFor oddSchema oddSettings).bodies.get ⟨.boolean, true⟩)) =
        some ["playercontrols.Enable();",
          "return held ? playercontrols.Say\"G\".default:.triggered : "
            ++ "playercontrols.Say\"G\".default:.ReadValue<bool>();"] ∧
      call (argumentsOf "Move" none)
          (linesOf .crlf ((Generation.moduleFor oddSchema oddSettings).bodies.get ⟨.vector2, false⟩)) =
        some ["playercontrols.Enable();", "return playercontrols.Say\"G\".Move.ReadValue<Vector2>();"] := by
  have hok := Generation.generate_eq_ok_iff.mpr ⟨admits_odd, rfl⟩
  exact ⟨hok, (call_generated hok .boolean "Say \"G\"" "default:").1.trans (by decide),
    (call_generated hok .vector2 "Say \"G\"" "Move").2.trans (by decide)⟩

end Accessor

end ActionLookup
