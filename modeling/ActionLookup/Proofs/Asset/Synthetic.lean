import Mathlib.Data.List.ProdSigma
import Mathlib.Data.List.Nodup
import ActionLookup.Synthetic
import ActionLookup.Proofs.Asset.Decoding
import ActionLookup.Proofs.Asset.Written
import ActionLookup.Proofs.Generation.Success
import ActionLookup.Proofs.Schema.Acceptance
import ActionLookup.Proofs.Schema.Reported

namespace ActionLookup.Synthetic

open Asset Json

/-! ### Asset texts -/

theorem toList_stringText (s : String) : (stringText s).toList = plainly s := by
  have hletters : (s.toList.map fun c => [c]).flatten = s.toList := by
    rw [← List.flatMap_def, List.flatMap_singleton']
  simp [stringText, plainly, quoted, hletters]

theorem toList_memberText (key value : String) :
    (memberText key value).toList = plainly key ++ ':' :: value.toList := by
  rw [← toList_stringText]
  simp [memberText, stringText]

theorem intercalate_comma (item : List Char) (items : List (List Char)) :
    [','].intercalate (item :: items) = item ++ items.flatMap (',' :: ·) := by
  induction items generalizing item with
  | nil => simp [List.intercalate]
  | cons next items ih =>
    have hmore : [','].intercalate (item :: next :: items) = item ++ ',' :: [','].intercalate (next :: items) := by
      simp [List.intercalate]
    rw [hmore, ih, List.flatMap_cons, List.cons_append]

theorem enclose_map_toList (opening closing : Char) (items : List String) :
    enclose opening closing (items.map String.toList) =
      opening :: ((",".intercalate items).toList ++ [closing]) := by
  rw [String.toList_intercalate]
  cases items with
  | nil => rfl
  | cons item items =>
    rw [List.map_cons, show ",".toList = [','] from rfl, intercalate_comma]
    simp [enclose]

theorem toList_objectText (members : List String) :
    (objectText members).toList = enclose '\x7b' '\x7d' (members.map String.toList) := by
  rw [enclose_map_toList]
  simp [objectText]

theorem toList_listText (items : List String) :
    (listText items).toList = enclose '[' ']' (items.map String.toList) := by
  rw [enclose_map_toList]
  simp [listText]

def IsBare (s : String) : Prop := (s.toList.all fun c => decide (IsPlain c)) = true

theorem isBare_controlType (t : ValueType) : IsBare t.controlType := by
  cases t <;> rfl

def actionOf (b : Binding) : Action := ⟨some b.name, some "Value", some b.valueType.controlType⟩

def mapOf (g : Group) : ActionMap := ⟨some g.name, g.bindings.map actionOf⟩

def documentOf (s : Schema) : Document := ⟨some s.name, s.groups.map mapOf⟩

theorem writesAction_actionText {b : Binding} (h : IsBare b.name) :
    WritesAction (actionOf b) (actionText b).toList := by
  simp only [actionText, toList_objectText, List.map_cons, List.map_nil, toList_memberText, toList_stringText]
  refine ⟨_, ⟨?_, ?_, enclosed_enclose (.cons (keyed_bare (spellsString_plainly rfl))
    (.cons (keyed_bare (spellsString_plainly rfl))
      (.cons (keyed_bare (spellsString_plainly rfl)) .nil)))⟩,
    .string (spellsString_plainly h), .string (spellsString_plainly rfl),
    .string (spellsString_plainly (isBare_controlType b.valueType))⟩
  · show (List.filter (· ∈ ["name", "type", "expectedControlType"]) ["name", "type", "expectedControlType"]).Nodup
    decide
  · simp

theorem writesMap_mapText {g : Group} (hname : IsBare g.name) (h : ∀ b ∈ g.bindings, IsBare b.name) :
    WritesMap (mapOf g) (mapText g).toList := by
  have hactions : List.Forall₂ (Padded WritesAction) (g.bindings.map actionOf)
      ((g.bindings.map actionText).map String.toList) := by
    rw [List.map_map, List.forall₂_map_left_iff, List.forall₂_map_right_iff, List.forall₂_same]
    exact fun b hb => padded_bare (writesAction_actionText (h b hb))
  simp only [mapText, toList_objectText, List.map_cons, List.map_nil, toList_memberText, toList_stringText,
    toList_listText]
  refine ⟨_, ⟨?_, ?_, enclosed_enclose (.cons (keyed_bare (spellsString_plainly rfl))
    (.cons (keyed_bare (spellsString_plainly rfl)) .nil))⟩,
    .string (spellsString_plainly hname), .written (enclosed_enclose hactions)⟩
  · show (List.filter (· ∈ ["name", "actions"]) ["name", "actions"]).Nodup
    decide
  · simp

theorem writesDocument_assetText {s : Schema} (hname : IsBare s.name) (hgroups : ∀ g ∈ s.groups, IsBare g.name)
    (hbindings : ∀ g ∈ s.groups, ∀ b ∈ g.bindings, IsBare b.name) :
    WritesDocument (documentOf s) (assetText s).toList := by
  have hmaps : List.Forall₂ (Padded WritesMap) (s.groups.map mapOf)
      ((s.groups.map mapText).map String.toList) := by
    rw [List.map_map, List.forall₂_map_left_iff, List.forall₂_map_right_iff, List.forall₂_same]
    exact fun g hg => padded_bare (writesMap_mapText (hgroups g hg) (hbindings g hg))
  simp only [assetText, toList_objectText, List.map_cons, List.map_nil, toList_memberText, toList_stringText,
    toList_listText]
  refine ⟨_, ⟨?_, ?_, enclosed_enclose (.cons (keyed_bare (spellsString_plainly rfl))
    (.cons (keyed_bare (spellsString_plainly rfl)) .nil))⟩,
    .string (spellsString_plainly hname), .written (enclosed_enclose hmaps)⟩
  · show (List.filter (· ∈ ["name", "maps"]) ["name", "maps"]).Nodup
    decide
  · simp

theorem gives_actionOf (b : Binding) :
    (actionOf b).name = some b.name ∧ (actionOf b).Gives b.valueType := by
  obtain ⟨name, t⟩ := b
  cases t
  · exact ⟨rfl, rfl⟩
  · exact ⟨rfl, .inl rfl⟩

theorem gives_mapOf (g : Group) : (mapOf g).Gives g := by
  refine ⟨rfl, ?_⟩
  have hread : ∀ action ∈ g.bindings.map actionOf, action.isRead = true := by
    intro action hmem
    obtain ⟨b, -, rfl⟩ := List.mem_map.mp hmem
    rw [Action.isRead_eq, Action.valueType_eq_some_iff.mpr (gives_actionOf b).2]
    rfl
  rw [mapOf, List.filter_eq_self.mpr hread, List.forall₂_map_left_iff, List.forall₂_same]
  exact fun b _ => gives_actionOf b

theorem decode_documentOf {s : Schema} (h : isVisible s.name = true) :
    ((documentOf s).decode none).result = .ok s := by
  refine Document.decode_eq_ok_iff.mpr ⟨⟨.inl h, ?_, ?_⟩, .own rfl h, ?_⟩
  · intro map hmap
    obtain ⟨g, -, rfl⟩ := List.mem_map.mp hmap
    rfl
  · intro map hmap action haction
    obtain ⟨g, -, rfl⟩ := List.mem_map.mp hmap
    obtain ⟨b, -, rfl⟩ := List.mem_map.mp haction
    rfl
  · rw [documentOf, List.forall₂_map_left_iff, List.forall₂_same]
    exact fun g _ => gives_mapOf g

theorem schemaOfJson_assetText {s : Schema} (hvisible : isVisible s.name = true) (hname : IsBare s.name)
    (hgroups : ∀ g ∈ s.groups, IsBare g.name)
    (hbindings : ∀ g ∈ s.groups, ∀ b ∈ g.bindings, IsBare b.name) :
    (schemaOfJson (assetText s) none).result = .ok s := by
  have hwritten : (documentOf s).WrittenBy (assetText s) :=
    padded_bare (writesDocument_assetText hname hgroups hbindings)
  rw [schemaOfJson_of_writtenBy hwritten]
  exact decode_documentOf hvisible

/-! ### Names -/

theorem mem_digits_of_mem_toDigits {n : Nat} {c : Char} (h : c ∈ Nat.toDigits 10 n) : c ∈ digits := by
  have hdigit := Char.isDigit_iff_toNat.mp (Nat.isDigit_of_mem_toDigits (by decide) (by decide) h)
  exact mem_digits hdigit.1 hdigit.2

theorem toDigits_injective : Function.Injective (Nat.toDigits 10) := by
  intro m n h
  rw [← @Nat.ofDigitChars_toDigits 10 m (by decide) (by decide), h, Nat.ofDigitChars_toDigits] <;> decide

theorem toList_groupName (g : Nat) : (groupName g).toList = "Map".toList ++ Nat.toDigits 10 g := by
  simp [groupName, toString]

theorem toList_bindingName (g b : Nat) :
    (bindingName g b).toList = "Action".toList ++ (Nat.toDigits 10 g ++ '_' :: Nat.toDigits 10 b) := by
  simp [bindingName, toString]

theorem groupName_injective : Function.Injective groupName := by
  intro g g' h
  have htexts := congrArg String.toList h
  rw [toList_groupName, toList_groupName, List.append_cancel_left_eq] at htexts
  exact toDigits_injective htexts

theorem bindingName_injective : Function.Injective fun p : Nat × Nat => bindingName p.1 p.2 := by
  rintro ⟨g, b⟩ ⟨g', b'⟩ h
  have htexts := congrArg String.toList h
  simp only [toList_bindingName, List.append_cancel_left_eq] at htexts
  obtain ⟨hg, -, hb⟩ := (List.append_cons_inj_of_notMem Nat.underscore_not_in_toDigits
    Nat.underscore_not_in_toDigits).mp htexts
  rw [toDigits_injective hg, toDigits_injective hb]

def alphabet : List Char := "MapAction_".toList ++ digits

theorem mem_alphabet_groupName {g : Nat} {c : Char} (h : c ∈ (groupName g).toList) : c ∈ alphabet := by
  rw [toList_groupName, List.mem_append] at h
  rcases h with h | h
  · exact List.mem_append_left _ ((by decide : "Map".toList ⊆ "MapAction_".toList) h)
  · exact List.mem_append_right _ (mem_digits_of_mem_toDigits h)

theorem mem_alphabet_bindingName {g b : Nat} {c : Char} (h : c ∈ (bindingName g b).toList) : c ∈ alphabet := by
  rw [toList_bindingName, List.mem_append, List.mem_append, List.mem_cons] at h
  rcases h with h | h | rfl | h
  · exact List.mem_append_left _ ((by decide : "Action".toList ⊆ "MapAction_".toList) h)
  · exact List.mem_append_right _ (mem_digits_of_mem_toDigits h)
  · decide
  · exact List.mem_append_right _ (mem_digits_of_mem_toDigits h)

theorem of_mem_alphabet {c : Char} (h : c ∈ alphabet) :
    IsPlain c ∧ Text.isBlank c = false ∧ Name.continues c = true := by
  have hall : (alphabet.all fun c => decide (IsPlain c) && !Text.isBlank c && Name.continues c) = true := by
    decide
  have hc := List.all_eq_true.mp hall c h
  simp only [Bool.and_eq_true, decide_eq_true_eq, Bool.not_eq_true'] at hc
  exact ⟨hc.1.1, hc.1.2, hc.2⟩

theorem isBare_of_alphabet {s : String} (h : ∀ c ∈ s.toList, c ∈ alphabet) : IsBare s :=
  List.all_eq_true.mpr fun c hc => decide_eq_true (of_mem_alphabet (h c hc)).1

theorem isIdentifier_strip {s : String} {c : Char} {cs : List Char} (hs : s.toList = c :: cs)
    (hc : Name.starts c = true) (h : ∀ c ∈ s.toList, c ∈ alphabet) :
    Name.isIdentifier (Name.strip s) = true := by
  have hkept : (Name.strip s).toList = c :: cs := by
    rw [Name.toList_strip, List.filter_eq_self.mpr fun d hd => ?_, hs]
    simp [(of_mem_alphabet (h d hd)).2.1]
  rw [Name.isIdentifier, hkept, Name.identifierChars, hc, Bool.true_and, List.all_eq_true]
  exact fun d hd => (of_mem_alphabet (h d (hs ▸ List.mem_cons_of_mem _ hd))).2.2

/-! ### Synthetic schemas -/

variable {groups bindings : Nat}

theorem mem_groups_schema {g : Group} (h : g ∈ (schema groups bindings).groups) :
    ∃ n, g = group bindings n := by
  obtain ⟨n, -, rfl⟩ := List.mem_map.mp h
  exact ⟨n, rfl⟩

theorem mem_bindings_group {n : Nat} {b : Binding} (h : b ∈ (group bindings n).bindings) :
    ∃ k, b = binding n k := by
  obtain ⟨k, -, rfl⟩ := List.mem_map.mp h
  exact ⟨k, rfl⟩

theorem names_schema (groups bindings : Nat) :
    (schema groups bindings).placed.map (fun p => p.2.name) =
      (List.range groups ×ˢ List.range bindings).map fun p => bindingName p.1 p.2 := by
  have hpairs : List.range groups ×ˢ List.range bindings =
      (List.range groups).flatMap fun g => (List.range bindings).map (Prod.mk g) := rfl
  simp [hpairs, Schema.placed, schema, group, binding, List.map_flatMap, List.flatMap_map, Function.comp_def]

theorem bindingCount_schema (groups bindings : Nat) :
    (schema groups bindings).bindingCount = groups * bindings := by
  have hlength := congrArg List.length (names_schema groups bindings)
  rwa [List.length_map, List.length_map, Schema.length_placed, List.length_product, List.length_range,
    List.length_range] at hlength

theorem shadowed_schema (groups bindings : Nat) : (schema groups bindings).shadowed = [] := by
  have hnames : ((schema groups bindings).placed.map fun p => p.2.name).Nodup := by
    rw [names_schema]
    exact (List.nodup_range.product List.nodup_range).map bindingName_injective
  rw [Schema.shadowed_eq_nil_iff]
  refine List.Nodup.of_map Prod.snd ?_
  rw [List.map_map]
  exact hnames

theorem valid_schema (groups bindings : Nat) : (schema groups bindings).Valid where
  name := by
    show Name.isIdentifier (Name.strip "Bench Controls") = true
    decide
  groups := by
    intro g hg
    obtain ⟨n, rfl⟩ := mem_groups_schema hg
    exact isIdentifier_strip (toList_groupName n) (by decide) fun _ => mem_alphabet_groupName
  bindings := by
    intro g hg b hb
    obtain ⟨n, rfl⟩ := mem_groups_schema hg
    obtain ⟨k, rfl⟩ := mem_bindings_group hb
    exact isIdentifier_strip (toList_bindingName n k) (by decide) fun _ => mem_alphabet_bindingName
  groups_distinct := by
    rw [schema, List.map_map]
    exact List.nodup_range.map groupName_injective
  bindings_distinct := by
    intro g hg
    obtain ⟨n, rfl⟩ := mem_groups_schema hg
    rw [group, List.map_map]
    exact List.nodup_range.map fun k k' h => (Prod.mk.inj (bindingName_injective h)).2

theorem schemaOfJson_schema (groups bindings : Nat) :
    (schemaOfJson (assetText (schema groups bindings)) none).result = .ok (schema groups bindings) := by
  have hvisible : isVisible "Bench Controls" = true := by decide
  have hname : IsBare "Bench Controls" := rfl
  refine schemaOfJson_assetText hvisible hname ?_ ?_
  · intro g hg
    obtain ⟨n, rfl⟩ := mem_groups_schema hg
    exact isBare_of_alphabet fun _ => mem_alphabet_groupName
  · intro g hg b hb
    obtain ⟨n, rfl⟩ := mem_groups_schema hg
    obtain ⟨k, rfl⟩ := mem_bindings_group hb
    exact isBare_of_alphabet fun _ => mem_alphabet_bindingName

theorem schema_round_trips (groups bindings : Nat) :
    (schemaOfJson (assetText (schema groups bindings)) none).result = .ok (schema groups bindings) ∧
      (schema groups bindings).bindingCount = groups * bindings ∧
      (schema groups bindings).validate = .ok () ∧
      (schema groups bindings).shadowed = [] ∧
      ∀ (settings : Settings) (policy : DuplicatePolicy), settings.problem? = none →
        settings.className ≠ "BenchControls" →
        ∃ m, (Generation.generate (schema groups bindings)
          { settings with duplicates := policy }).result = .ok m := by
  have hvalid := valid_schema groups bindings
  have hshadowed := shadowed_schema groups bindings
  refine ⟨schemaOfJson_schema groups bindings, bindingCount_schema groups bindings,
    Schema.validate_eq_ok_iff.mpr hvalid, hshadowed, ?_⟩
  intro settings policy hsettings hapart
  have hclass : Name.strip "Bench Controls" = "BenchControls" := by decide
  refine ⟨_, Generation.generate_eq_ok_iff.mpr ⟨⟨hsettings, ?_, ?_, fun _ => hshadowed⟩, rfl⟩⟩
  · show settings.className ≠ Name.strip "Bench Controls"
    rw [hclass]
    exact hapart
  · exact fun _ => Schema.problem?_eq_none_iff.mpr hvalid

theorem schema_round_trips_rejecting :
    (schemaOfJson (assetText (schema 2 12)) none).result = .ok (schema 2 12) ∧
      ∃ m, (Generation.generate (schema 2 12) { Settings.default with duplicates := .reject }).result = .ok m := by
  obtain ⟨hread, -, -, -, hgenerate⟩ := schema_round_trips 2 12
  exact ⟨hread, hgenerate .default .reject (by decide) (by decide)⟩

end ActionLookup.Synthetic
