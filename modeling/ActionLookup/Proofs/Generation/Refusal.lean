import ActionLookup.Proofs.Generation.Success
import ActionLookup.Proofs.Schema.FirstProblem
import ActionLookup.Proofs.Schema.Reported

/-!
What generating asks for, and what is reported where something is amiss: the first demand in order that is
not met decides. What is checked decides nothing about the module that comes out (`generate_settles`).
-/

namespace ActionLookup

open Text

namespace Settings

def demands (s : Settings) : List (Demand SettingsProblem) :=
  [⟨Name.isIdentifier s.className, .className s.className⟩,
    ⟨Name.isIdentifier s.vectorFunction, .vectorFunction s.vectorFunction⟩,
    ⟨Name.isIdentifier s.buttonFunction, .buttonFunction s.buttonFunction⟩] ++
  s.enclosing.toList.flatMap fun name =>
    (pieces '.' name.toList).map fun piece => ⟨Name.isIdentifier (String.ofList piece), .enclosing name⟩

theorem findSome?_pieces (name : String) (parts : List (List Char)) :
    (parts.map fun piece => (⟨Name.isIdentifier (String.ofList piece), .enclosing name⟩ :
        Demand SettingsProblem)).findSome? Demand.problem? =
      if parts.all Name.identifierChars then none else some (.enclosing name) := by
  induction parts with
  | nil => rfl
  | cons piece parts ih =>
      have hpiece : Name.isIdentifier (String.ofList piece) = Name.identifierChars piece := by
        rw [Name.isIdentifier, String.toList_ofList]
      rw [List.map_cons, Demand.findSome?_cons, ih, hpiece, List.all_cons]
      cases Name.identifierChars piece <;> rfl

theorem problem?_eq_findSome? (s : Settings) : s.problem? = s.demands.findSome? Demand.problem? := by
  simp only [problem?, demands, List.cons_append, List.nil_append, Demand.findSome?_cons,
    Bool.not_eq_true', ← Bool.not_eq_true, ite_not]
  cases s.enclosing with
  | none => rfl
  | some name =>
      rw [Option.toList_some, List.flatMap_singleton, findSome?_pieces]
      rfl

theorem problem?_eq_some_iff {s : Settings} {p : SettingsProblem} :
    s.problem? = some p ↔ Demand.FirstUnmet s.demands p := by
  rw [s.problem?_eq_findSome?, Demand.findSome?_eq_some_iff]

theorem problem?_eq_none_iff_met {s : Settings} : s.problem? = none ↔ ∀ d ∈ s.demands, d.met = true := by
  rw [s.problem?_eq_findSome?, Demand.findSome?_eq_none_iff]

def withChecks (s : Settings) (validates : Bool) (duplicates : DuplicatePolicy) : Settings :=
  { s with validates, duplicates }

end Settings

namespace Generation

/-- What generating asks for, in the order in which it is asked. -/
structure Met (schema : Schema) (settings : Settings) : Prop where
  names : ∀ d ∈ settings.demands, d.met = true
  apart : settings.className ≠ schema.className
  accepted : settings.validates = false ∨ schema.validate = .ok ()
  unambiguous : settings.duplicates = .firstWins ∨ (schema.placed.map fun p => p.2.key).Nodup

inductive Refuses (schema : Schema) (settings : Settings) : GenerationProblem → Prop where
  | name {p : SettingsProblem} : Demand.FirstUnmet settings.demands p →
      Refuses schema settings (.settings p)
  | clash : (∀ d ∈ settings.demands, d.met = true) → settings.className = schema.className →
      Refuses schema settings (.settings (.classClash settings.className))
  | invalid {p : SchemaProblem} : (∀ d ∈ settings.demands, d.met = true) →
      settings.className ≠ schema.className → settings.validates = true → schema.validate = .error p →
      Refuses schema settings (.schema p)
  | ambiguous {before after : List (Group × Binding)} {g : Group} {b : Binding}
      {earliest : Group × Binding} : (∀ d ∈ settings.demands, d.met = true) →
      settings.className ≠ schema.className → settings.validates = false ∨ schema.validate = .ok () →
      settings.duplicates = .reject → schema.placed = before ++ (g, b) :: after →
      (before.map fun p => p.2.key).Nodup → (before.find? fun p => p.2.key = b.key) = some earliest →
      Refuses schema settings (.schema (.ambiguous ⟨b.name, b.valueType, earliest.1.name, g.name⟩))

variable {schema : Schema} {settings : Settings} {p : GenerationProblem}

theorem checkSchema_eq_ok_iff_validate :
    checkSchema schema settings = .ok () ↔ settings.validates = false ∨ schema.validate = .ok () := by
  unfold checkSchema Schema.validate
  cases settings.validates with
  | false => simp
  | true => cases schema.problem? <;> simp

theorem checkSchema_eq_error_iff :
    checkSchema schema settings = .error p ↔
      settings.validates = true ∧ ∃ q, schema.validate = .error q ∧ p = .schema q := by
  unfold checkSchema Schema.validate
  cases settings.validates with
  | false => simp
  | true => cases schema.problem? <;> simp [eq_comm]

theorem checkSettings_eq_ok_iff_met :
    checkSettings schema settings = .ok () ↔
      (∀ d ∈ settings.demands, d.met = true) ∧ settings.className ≠ schema.className := by
  rw [← Settings.problem?_eq_none_iff_met]
  exact checkSettings_eq_ok_iff

theorem checkSettings_eq_error_iff :
    checkSettings schema settings = .error p ↔
      (∃ q, Demand.FirstUnmet settings.demands q ∧ p = .settings q) ∨
        (∀ d ∈ settings.demands, d.met = true) ∧ settings.className = schema.className ∧
          p = .settings (.classClash settings.className) := by
  simp only [← Settings.problem?_eq_some_iff, ← Settings.problem?_eq_none_iff_met]
  unfold checkSettings
  cases settings.problem? with
  | some q => simp [eq_comm]
  | none => by_cases h : settings.className = schema.className <;> simp [h, eq_comm]

theorem checkShadowed_eq_error_iff :
    (checkShadowed schema settings).result = .error p ↔
      settings.duplicates = .reject ∧ ∃ r, schema.shadowed.head? = some r ∧ p = .schema (.ambiguous r) := by
  unfold checkShadowed
  cases settings.duplicates with
  | firstWins => simp [Report.tell]
  | reject => cases schema.shadowed <;> simp [Report.ok, Report.fail, eq_comm]

theorem admits_iff_met : Admits schema settings ↔ Met schema settings := by
  have hnames := Settings.problem?_eq_none_iff_met (s := settings)
  have haccepted : (settings.validates = true → schema.problem? = none) ↔
      (settings.validates = false ∨ schema.validate = .ok ()) :=
    checkSchema_eq_ok_iff.symm.trans checkSchema_eq_ok_iff_validate
  have hunshadowed : (settings.duplicates = .reject → schema.shadowed = []) ↔
      (settings.duplicates = .firstWins ∨ (schema.placed.map fun p => p.2.key).Nodup) := by
    rw [Schema.shadowed_eq_nil_iff]
    cases settings.duplicates <;> simp
  constructor
  · intro h
    exact ⟨hnames.mp h.usable, h.apart, haccepted.mp h.accepted, hunshadowed.mp h.unshadowed⟩
  · intro h
    exact ⟨hnames.mpr h.names, h.apart, haccepted.mpr h.accepted, hunshadowed.mpr h.unambiguous⟩

theorem generate_eq_error_iff_gate :
    (generate schema settings).result = .error p ↔ (gate schema settings).result = .error p := by
  rw [generate_eq_gate, Report.result_andThen_eq_error]
  simp

theorem gate_eq_error_iff : (gate schema settings).result = .error p ↔ Refuses schema settings p := by
  simp only [gate, Report.bind_eq, Report.result_andThen_eq_error, Report.ofExcept]
  constructor
  -- Each check that refuses comes with what the ones before it let through.
  · rintro (h | ⟨_, hsettings, h⟩)
    · rcases checkSettings_eq_error_iff.mp h with ⟨q, hq, rfl⟩ | ⟨hnames, hclash, rfl⟩
      · exact .name hq
      · exact .clash hnames hclash
    · obtain ⟨hnames, hapart⟩ := checkSettings_eq_ok_iff_met.mp hsettings
      rcases h with h | ⟨_, hschema, h⟩
      · obtain ⟨hvalidates, q, hq, rfl⟩ := checkSchema_eq_error_iff.mp h
        exact .invalid hnames hapart hvalidates hq
      · obtain ⟨hreject, r, hr, rfl⟩ := checkShadowed_eq_error_iff.mp h
        obtain ⟨before, g, b, after, earliest, hplaced, hnodup, hfind, rfl⟩ :=
          Schema.head?_shadowed_eq_some_iff.mp hr
        exact .ambiguous hnames hapart (checkSchema_eq_ok_iff_validate.mp hschema) hreject hplaced hnodup hfind
  · intro h
    cases h with
    | name hfirst => exact .inl (checkSettings_eq_error_iff.mpr (.inl ⟨_, hfirst, rfl⟩))
    | clash hnames hclash => exact .inl (checkSettings_eq_error_iff.mpr (.inr ⟨hnames, hclash, rfl⟩))
    | invalid hnames hapart hvalidates hq =>
        have hsettings := checkSettings_eq_ok_iff_met.mpr ⟨hnames, hapart⟩
        exact .inr ⟨(), hsettings, .inl (checkSchema_eq_error_iff.mpr ⟨hvalidates, _, hq, rfl⟩)⟩
    | ambiguous hnames hapart haccepted hreject hplaced hnodup hfind =>
        have hsettings := checkSettings_eq_ok_iff_met.mpr ⟨hnames, hapart⟩
        have hschema := checkSchema_eq_ok_iff_validate.mpr haccepted
        have hhead := Schema.head?_shadowed_eq_some_iff.mpr ⟨_, _, _, _, _, hplaced, hnodup, hfind, rfl⟩
        exact .inr ⟨(), hsettings, .inr ⟨(), hschema, checkShadowed_eq_error_iff.mpr ⟨hreject, _, hhead, rfl⟩⟩⟩

theorem moduleFor_withChecks (schema : Schema) (settings : Settings) (validates : Bool)
    (duplicates : DuplicatePolicy) :
    moduleFor schema (settings.withChecks validates duplicates) = moduleFor schema settings := rfl

theorem generate_settles (schema : Schema) (settings : Settings) :
    ((∃ m, (generate schema settings).result = .ok m) ↔ Met schema settings) ∧
      (∀ p, (generate schema settings).result = .error p ↔ Refuses schema settings p) ∧
      (∀ p, (generate schema settings).result = .error p →
        (∃ q, p = .settings q) ∨ ∃ q, p = .schema q ∧ ∀ problem, q ≠ .asset problem) ∧
      ∀ validates duplicates m m', (generate schema settings).result = .ok m →
        (generate schema (settings.withChecks validates duplicates)).result = .ok m' → m' = m := by
  have herror : ∀ p, (generate schema settings).result = .error p ↔ Refuses schema settings p :=
    fun _ => generate_eq_error_iff_gate.trans gate_eq_error_iff
  refine ⟨⟨?_, ?_⟩, herror, ?_, ?_⟩
  · rintro ⟨m, hm⟩
    exact admits_iff_met.mp (generate_eq_ok_iff.mp hm).1
  · intro hmet
    exact ⟨_, generate_eq_ok_iff.mpr ⟨admits_iff_met.mpr hmet, rfl⟩⟩
  · intro p hp
    cases (herror p).mp hp with
    | name _ => exact .inl ⟨_, rfl⟩
    | clash _ _ => exact .inl ⟨_, rfl⟩
    | invalid _ _ _ hinvalid =>
        exact .inr ⟨_, rfl, fun problem e => schema.validate_ne_asset problem (e ▸ hinvalid)⟩
    | ambiguous _ _ _ _ _ _ _ => exact .inr ⟨_, rfl, nofun⟩
  · intro validates duplicates m m' hm hm'
    rw [(generate_eq_ok_iff.mp hm).2, (generate_eq_ok_iff.mp hm').2]
    exact moduleFor_withChecks schema settings validates duplicates

end Generation

end ActionLookup
