import Mathlib.Tactic.ByContra
import ActionLookup.Generation
import ActionLookup.Proofs.Accessor.Rendering

namespace ActionLookup

namespace Settings

structure Usable (s : Settings) : Prop where
  className : Name.isIdentifier s.className = true
  vectorFunction : Name.isIdentifier s.vectorFunction = true
  buttonFunction : Name.isIdentifier s.buttonFunction = true
  enclosing : ∀ name, s.enclosing = some name → isNamespace name = true

theorem problem?_eq_none_iff {s : Settings} : s.problem? = none ↔ s.Usable := by
  unfold problem?
  constructor
  · intro h
    split at h
    · exact nomatch h
    split at h
    · exact nomatch h
    split at h
    · exact nomatch h
    rename_i hc hv hb
    refine ⟨by simpa using hc, by simpa using hv, by simpa using hb, fun name hname => ?_⟩
    rw [hname] at h
    by_contra hn
    simp [hn] at h
  · rintro ⟨hc, hv, hb, hn⟩
    simp only [hc, hv, hb, Bool.not_true, Bool.false_eq_true, if_false]
    cases he : s.enclosing with
    | none => rfl
    | some name => simp [hn name he]

end Settings

namespace Generation

def bodies (schema : Schema) (settings : Settings) : PerTag String :=
  .ofFunction fun tag => Line.renderAll settings.lineEnding settings.memberDepth
    (Accessor.rendering schema settings tag)

def moduleFor (schema : Schema) (settings : Settings) : Module :=
  ⟨settings.fileName, bodies schema settings, Module.render schema settings (bodies schema settings)⟩

structure Admits (schema : Schema) (settings : Settings) : Prop where
  usable : settings.problem? = none
  apart : settings.className ≠ schema.className
  accepted : settings.validates = true → schema.problem? = none
  unshadowed : settings.duplicates = .reject → schema.shadowed = []

theorem checkSettings_eq_ok_iff {schema : Schema} {settings : Settings} :
    checkSettings schema settings = .ok () ↔
      settings.problem? = none ∧ settings.className ≠ schema.className := by
  unfold checkSettings
  cases settings.problem? with
  | some problem => simp
  | none => by_cases h : settings.className = schema.className <;> simp [h]

theorem checkSchema_eq_ok_iff {schema : Schema} {settings : Settings} :
    checkSchema schema settings = .ok () ↔ (settings.validates = true → schema.problem? = none) := by
  unfold checkSchema
  cases settings.validates with
  | false => simp
  | true => cases schema.problem? <;> simp

theorem checkShadowed_eq_ok_iff {schema : Schema} {settings : Settings} :
    (checkShadowed schema settings).result = .ok () ↔
      (settings.duplicates = .reject → schema.shadowed = []) := by
  unfold checkShadowed
  cases settings.duplicates with
  | firstWins => simp [Report.tell]
  | reject => cases schema.shadowed <;> simp [Report.ok, Report.fail]

theorem room_to_emit (settings : Settings) : ∀ n ∈ Text.wordLimit, settings.memberDepth + 5 < n := by
  intro n hn
  obtain rfl : UInt64.size = n := Option.some.inj hn
  unfold Settings.memberDepth Settings.classDepth
  cases settings.enclosing.isSome <;> decide

theorem accessorTexts_eq (schema : Schema) (settings : Settings) :
    accessorTexts schema settings = .ok (bodies schema settings) := by
  have hroom := Accessor.hasRoom_startWithin (room_to_emit settings) settings.lineEnding
  have h : ((Accessor.dispatch schema settings : Script Empty).run _).Appends _ _ :=
    Accessor.appends_dispatch schema settings hroom
  simp only [accessorTexts, Drafts.start, h.stopped, Bool.false_eq_true, if_false]
  congr 1
  refine PerTag.ext_get fun tag => ?_
  rw [Drafts.get_texts, Accessor.text_dispatch schema settings (room_to_emit settings), bodies,
    PerTag.get_ofFunction]

def tells (schema : Schema) (settings : Settings) : List Event :=
  (checkShadowed schema settings).events ++ schema.dispatchEvents ++
    [.generated settings.fileName schema.name schema.groups.length schema.bindingCount]

/-- What is checked, and told, before anything is written. -/
def gate (schema : Schema) (settings : Settings) : Report GenerationProblem Unit := do
  Report.ofExcept (checkSettings schema settings)
  Report.ofExcept (checkSchema schema settings)
  checkShadowed schema settings

theorem generate_eq_gate (schema : Schema) (settings : Settings) :
    generate schema settings = (gate schema settings).andThen fun _ =>
      ⟨schema.dispatchEvents ++
        [.generated settings.fileName schema.name schema.groups.length schema.bindingCount],
        .ok (moduleFor schema settings)⟩ := by
  have hwritten : (Report.tell schema.dispatchEvents).andThen (fun _ =>
      (Report.ofExcept (accessorTexts schema settings)).andThen fun bodies =>
        (Report.tell [.generated settings.fileName schema.name schema.groups.length schema.bindingCount]).andThen
          fun _ => Report.ok ⟨settings.fileName, bodies, Module.render schema settings bodies⟩) =
      (⟨schema.dispatchEvents ++
        [.generated settings.fileName schema.name schema.groups.length schema.bindingCount],
        .ok (moduleFor schema settings)⟩ : Report GenerationProblem Module) := by
    simp [Report.andThen, Report.tell, Report.ofExcept, Report.ok, accessorTexts_eq, moduleFor]
  simp only [generate, gate, Report.bind_eq, Report.pure_eq, Report.andThen_assoc, hwritten]

theorem gate_eq_ok_iff {schema : Schema} {settings : Settings} :
    (gate schema settings).result = .ok () ↔ Admits schema settings := by
  simp only [gate, Report.bind_eq, Report.result_andThen_eq_ok]
  constructor
  · rintro ⟨_, h1, _, h2, h3⟩
    have hs := checkSettings_eq_ok_iff.mp h1
    exact ⟨hs.1, hs.2, checkSchema_eq_ok_iff.mp h2, checkShadowed_eq_ok_iff.mp h3⟩
  · intro h
    exact ⟨(), checkSettings_eq_ok_iff.mpr ⟨h.usable, h.apart⟩, (), checkSchema_eq_ok_iff.mpr h.accepted,
      checkShadowed_eq_ok_iff.mpr h.unshadowed⟩

theorem generate_eq_ok_iff {schema : Schema} {settings : Settings} {m : Module} :
    (generate schema settings).result = .ok m ↔
      Admits schema settings ∧ m = moduleFor schema settings := by
  rw [generate_eq_gate, Report.result_andThen_eq_ok]
  constructor
  · rintro ⟨_, hgate, hm⟩
    exact ⟨gate_eq_ok_iff.mp hgate, (Except.ok.inj hm).symm⟩
  · rintro ⟨hadmits, rfl⟩
    exact ⟨(), gate_eq_ok_iff.mpr hadmits, rfl⟩

theorem generate_of_admits {schema : Schema} {settings : Settings} (h : Admits schema settings) :
    generate schema settings = ⟨tells schema settings, .ok (moduleFor schema settings)⟩ := by
  have h1 := checkSettings_eq_ok_iff.mpr ⟨h.usable, h.apart⟩
  have h2 := checkSchema_eq_ok_iff.mpr h.accepted
  have h3 := checkShadowed_eq_ok_iff.mpr h.unshadowed
  simp [generate, Report.andThen, Report.ofExcept, Report.tell, Report.ok, h1, h2, h3,
    accessorTexts_eq, tells, moduleFor]

end Generation

end ActionLookup
