import ActionLookup.Proofs.Generation.Success
import ActionLookup.Proofs.Text.Casing

/-!
The names that the generated class declares, with the parameters of its accessors (`signature_eq`). Only
the class of the asset is compared with the name of the class, so some of them can coincide; a lowered
name has no capitals, which rules out most of it (`namesApart_generated_iff`).
-/

namespace ActionLookup

open Text

def Settings.accessorName (s : Settings) : ValueType → String
  | .vector2 => s.vectorFunction
  | .boolean => s.buttonFunction

namespace Accessor

def resultType : ValueType → String
  | .vector2 => "Vector2"
  | .boolean => "bool"

def parameters (tag : Tag) : List (String × String) :=
  ("string", "actionName") ::
    ((match tag.valueType with
      | .vector2 => []
      | .boolean => [("bool", "held")])
    ++ if tag.qualified then [("string", "mapName")] else [])

def parameterList (tag : Tag) : String :=
  "(" ++ ", ".intercalate ((parameters tag).map fun p => p.1 ++ " " ++ p.2) ++ ")"

theorem signature_eq (settings : Settings) (tag : Tag) :
    signature settings tag =
      "public static " ++ resultType tag.valueType ++ " " ++ settings.accessorName tag.valueType
        ++ parameterList tag := by
  have hvector : "public static Vector2 " = "public static " ++ resultType .vector2 ++ " " := by decide
  have hbool : "public static bool " = "public static " ++ resultType .boolean ++ " " := by decide
  obtain ⟨t, q⟩ := tag
  cases t <;> cases q
  · have hlist : "(string actionName)" = parameterList ⟨.vector2, false⟩ := by decide
    rw [signature_vector_unqualified, hvector, hlist, Settings.accessorName]
  · have hlist : "(string actionName, string mapName)" = parameterList ⟨.vector2, true⟩ := by
      decide
    rw [signature_vector_qualified, hvector, hlist, Settings.accessorName]
  · have hlist : "(string actionName, bool held)" = parameterList ⟨.boolean, false⟩ := by decide
    rw [signature_boolean_unqualified, hbool, hlist, Settings.accessorName]
  · have hlist : "(string actionName, bool held, string mapName)" = parameterList ⟨.boolean, true⟩ := by
      decide
    rw [signature_boolean_qualified, hbool, hlist, Settings.accessorName]

end Accessor

/-- The field and the accessors have names of their own beside the class, and no parameter hides the field. -/
structure NamesApart (schema : Schema) (settings : Settings) : Prop where
  field_class : schema.holder ≠ settings.className
  field_accessors : ∀ t, schema.holder ≠ settings.accessorName t
  accessors_class : ∀ t, settings.accessorName t ≠ settings.className
  field_parameters : ∀ tag, schema.holder ∉ (Accessor.parameters tag).map Prod.snd

def hasCapital (name : String) : Bool := name.toList.any Char.isUpper

theorem lowercase_ne_of_hasCapital (name : String) {other : String} (h : hasCapital other = true) :
    Name.lowercase name ≠ other := by
  rintro rfl
  obtain ⟨c, hc, hupper⟩ := List.any_eq_true.mp h
  rw [not_isUpper_of_mem_lowercase hc] at hupper
  exact Bool.false_ne_true hupper

theorem holder_eq_held_iff {schema : Schema} :
    schema.holder = "held" ↔ schema.className.toLower = "held" :=
  lowercase_eq_iff (by decide)

theorem holder_mem_parameters_iff {schema : Schema} {tag : Tag} :
    schema.holder ∈ (Accessor.parameters tag).map Prod.snd ↔
      tag.valueType = .boolean ∧ schema.className.toLower = "held" := by
  have haction : schema.holder ≠ "actionName" := lowercase_ne_of_hasCapital _ (by decide)
  have hmap : schema.holder ≠ "mapName" := lowercase_ne_of_hasCapital _ (by decide)
  obtain ⟨t, q⟩ := tag
  cases t <;> cases q <;> simp [Accessor.parameters, haction, hmap, holder_eq_held_iff]

theorem namesApart_generated_iff {schema : Schema} {settings : Settings} {m : Module}
    (h : (Generation.generate schema settings).result = .ok m) :
    NamesApart schema settings ↔
      (hasCapital settings.className = false → schema.holder ≠ schema.className →
          schema.holder ≠ settings.className) ∧
        (∀ t, hasCapital (settings.accessorName t) = false → schema.holder ≠ settings.accessorName t) ∧
        (∀ t, settings.accessorName t ≠ settings.className) ∧
        schema.className.toLower ≠ "held" := by
  have hapart := (Generation.generate_eq_ok_iff.mp h).1.apart
  constructor
  · intro hnames
    refine ⟨fun _ _ => hnames.field_class, fun t _ => hnames.field_accessors t, hnames.accessors_class, ?_⟩
    exact fun hheld => hnames.field_parameters ⟨.boolean, true⟩ (holder_mem_parameters_iff.mpr ⟨rfl, hheld⟩)
  · rintro ⟨hclass, haccessors, hfunctions, hheld⟩
    refine ⟨?_, fun t => ?_, hfunctions, fun tag htag => hheld (holder_mem_parameters_iff.mp htag).2⟩
    · cases hcapital : hasCapital settings.className with
      | true => exact lowercase_ne_of_hasCapital _ hcapital
      | false =>
          by_cases hsame : schema.holder = schema.className
          · exact fun heq => hapart (heq.symm.trans hsame)
          · exact hclass hcapital hsame
    · cases hcapital : hasCapital (settings.accessorName t) with
      | true => exact lowercase_ne_of_hasCapital _ hcapital
      | false => exact haccessors t hcapital

def walkSchema : Schema := ⟨"Player Controls", [⟨"On Foot", [⟨"Walk", .vector2⟩, ⟨"Jump", .boolean⟩]⟩]⟩

def smallSettings : Settings := { Settings.default with className := "controls", vectorFunction := "axis" }

theorem namesApart_generated_small :
    (Generation.generate walkSchema smallSettings).result =
        .ok (Generation.moduleFor walkSchema smallSettings) ∧
      NamesApart walkSchema smallSettings := by
  have hadmits : Generation.Admits walkSchema smallSettings :=
    ⟨by decide, by decide, fun _ => by decide, nofun⟩
  have hok := Generation.generate_eq_ok_iff.mpr ⟨hadmits, rfl⟩
  refine ⟨hok, (namesApart_generated_iff hok).mpr ⟨fun _ _ => ?_, fun t _ => ?_, fun t => ?_, ?_⟩⟩
  · decide
  · cases t <;> decide
  · cases t <;> decide
  · decide +kernel

def heldSchema : Schema := ⟨"Held", [⟨"Player", [⟨"Jump", .boolean⟩]⟩]⟩

def likeField : Settings := { Settings.default with className := "held" }

def likeClass : Settings := { Settings.default with vectorFunction := "InputManager" }

theorem not_namesApart_held :
    ((Generation.generate heldSchema Settings.default).result =
        .ok (Generation.moduleFor heldSchema Settings.default) ∧
      Settings.default.validates = true ∧
      heldSchema.holder ∈ (Accessor.parameters ⟨.boolean, false⟩).map Prod.snd ∧
      ¬NamesApart heldSchema Settings.default) ∧
    ((Generation.generate heldSchema likeField).result = .ok (Generation.moduleFor heldSchema likeField) ∧
      likeField.validates = true ∧
      heldSchema.holder = likeField.className) ∧
    ((Generation.generate heldSchema likeClass).result = .ok (Generation.moduleFor heldSchema likeClass) ∧
      likeClass.validates = true ∧
      likeClass.accessorName .vector2 = likeClass.className) := by
  have hvalid : heldSchema.problem? = none := by decide
  have hhidden : heldSchema.holder ∈ (Accessor.parameters ⟨.boolean, false⟩).map Prod.snd := by
    decide
  have hok {settings : Settings} (hs : settings.problem? = none)
      (hc : settings.className ≠ heldSchema.className) (hd : settings.duplicates ≠ .reject) :
      (Generation.generate heldSchema settings).result = .ok (Generation.moduleFor heldSchema settings) :=
    Generation.generate_eq_ok_iff.mpr ⟨⟨hs, hc, fun _ => hvalid, fun h => absurd h hd⟩, rfl⟩
  refine ⟨⟨hok (by decide) (by decide) (by decide), rfl, hhidden, ?_⟩,
    ⟨hok (by decide) (by decide) (by decide), rfl, by decide⟩,
    ⟨hok (by decide) (by decide) (by decide), rfl, rfl⟩⟩
  exact fun hnames => hnames.field_parameters ⟨.boolean, false⟩ hhidden

end ActionLookup
